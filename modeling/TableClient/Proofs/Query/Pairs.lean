import TableClient.Proofs.Query.Counts
import TableClient.Proofs.Query.Params
/-! What a selection looks like as pairs of texts, and what can be told from them. Every key is
written once, so no parameter stands in the way of another, and the pairs part by their keys into
those of the formula, the ceiling, the fields and the order. What they do not show is whether a part
that asks for nothing was given or left out. -/
namespace TableClient

namespace Selection

/-- The parts that ask for something: no formula without text, no ceiling of zero, no empty list. -/
def asked (selection : Selection) : Selection where
  formula := selection.formula.filter (· ≠ "")
  sort := selection.sort.filter (· ≠ [])
  fields := selection.fields.filter (· ≠ [])
  maxRecords := selection.maxRecords.filter (· ≠ 0)

def sortPairs (index : Nat) (keys : List SortKey) : List (String × String) :=
  (keys.zipIdx index).flatMap fun (key, number) =>
    [(sortFieldKey number, key.field), (sortDirectionKey number, key.direction.text)]

def pairs (selection : Selection) : List (String × String) :=
  selection.formula.toList.map (formulaKey, ·) ++
    (selection.maxRecords.toList.map fun ceiling => (ceilingKey, Text.decimal ceiling.toNat)) ++
    (selection.fields.getD []).map (fieldsKey, ·) ++ sortPairs 0 (selection.sort.getD [])

/-- Keys that differ in nothing but their numbers. -/
theorem numbered_injective (ending : String) :
    Function.Injective fun index => "sort[" ++ Text.decimal index ++ ending := by
  intro index index' same
  have digits := congrArg String.toList same
  simp only [String.toList_append, List.append_cancel_left_eq, List.append_cancel_right_eq] at digits
  exact Text.decimal_injective (String.toList_inj.mp digits)

theorem sortFieldKey_injective : Function.Injective sortFieldKey := numbered_injective "][field]"

theorem sortDirectionKey_injective : Function.Injective sortDirectionKey :=
  numbered_injective "][direction]"

/-- The keys of an order's fields and those of its directions have different ends. -/
theorem sortFieldKey_ne_sortDirectionKey (index index' : Nat) :
    sortFieldKey index ≠ sortDirectionKey index' := by
  intro same
  have ends := congrArg (fun key => key.toList.reverse.take 2) same
  simp [sortFieldKey, sortDirectionKey] at ends

theorem mem_keys_sortParams {index : Nat} {keys : List SortKey} {key : String}
    (member : key ∈ Members.keys (sortParams index keys)) :
    ∃ number, index ≤ number ∧ (key = sortFieldKey number ∨ key = sortDirectionKey number) := by
  induction keys generalizing index with
  | nil => exact absurd member List.not_mem_nil
  | cons first rest ih =>
    simp only [sortParams, Members.keys, List.map_cons, List.mem_cons] at member
    rcases member with rfl | rfl | later
    · exact ⟨index, Nat.le_refl _, .inl rfl⟩
    · exact ⟨index, Nat.le_refl _, .inr rfl⟩
    · obtain ⟨number, above, written⟩ := ih later
      exact ⟨number, Nat.le_of_succ_le above, written⟩

theorem distinct_sortParams (index : Nat) (keys : List SortKey) :
    Members.Distinct (sortParams index keys) := by
  induction keys generalizing index with
  | nil => exact List.nodup_nil
  | cons first rest ih =>
    have later := ih (index + 1)
    have field : sortFieldKey index ∉ Members.keys (sortParams (index + 1) rest) := by
      intro member
      obtain ⟨number, above, same | same⟩ := mem_keys_sortParams member
      · exact absurd (sortFieldKey_injective same) (by omega)
      · exact sortFieldKey_ne_sortDirectionKey _ _ same
    have direction : sortDirectionKey index ∉ Members.keys (sortParams (index + 1) rest) := by
      intro member
      obtain ⟨number, above, same | same⟩ := mem_keys_sortParams member
      · exact sortFieldKey_ne_sortDirectionKey _ _ same.symm
      · exact absurd (sortDirectionKey_injective same) (by omega)
    refine List.nodup_cons.mpr ⟨?_, List.nodup_cons.mpr ⟨direction, later⟩⟩
    intro member
    rcases List.mem_cons.mp member with same | inside
    · exact sortFieldKey_ne_sortDirectionKey _ _ same
    · exact field inside

theorem keys_formulaParam {formula : Option String} {key : String}
    (member : key ∈ Members.keys (formulaParam formula)) : key = formulaKey := by
  by_contra other
  exact not_mem_formulaParam other formula member

theorem keys_ceilingParam {ceiling : Option UInt64} {key : String}
    (member : key ∈ Members.keys (ceilingParam ceiling)) : key = ceilingKey := by
  by_contra other
  exact not_mem_ceilingParam other ceiling member

theorem keys_fieldsParam {fields : Option (List String)} {key : String}
    (member : key ∈ Members.keys (fieldsParam fields)) : key = fieldsKey := by
  by_contra other
  exact not_mem_fieldsParam other fields member

section Parts

variable (formula : Option String) (ceiling : Option UInt64) (fields : Option (List String))

theorem distinct_formulaParam : Members.Distinct (formulaParam formula) := by
  cases formula with
  | none => exact List.nodup_nil
  | some text =>
    by_cases empty : text = "" <;> simp [formulaParam, empty, Members.Distinct, Members.keys]

theorem distinct_ceilingParam : Members.Distinct (ceilingParam ceiling) := by
  cases ceiling with
  | none => exact List.nodup_nil
  | some count =>
    by_cases zero : count = 0 <;> simp [ceilingParam, zero, Members.Distinct, Members.keys]

theorem distinct_fieldsParam : Members.Distinct (fieldsParam fields) := by
  cases fields with
  | none => exact List.nodup_nil
  | some fields => simp [fieldsParam, Members.Distinct, Members.keys]

end Parts

/-- No parameter is written under the key of another. -/
theorem distinct_params (selection : Selection) : Members.Distinct selection.params := by
  unfold params
  rw [List.append_assoc, List.append_assoc]
  apply Members.distinct_append (distinct_formulaParam _)
  · apply Members.distinct_append (distinct_ceilingParam _)
    · apply Members.distinct_append (distinct_fieldsParam _) (distinct_sortParams 0 _)
      intro key member
      rw [keys_fieldsParam member]
      exact not_mem_sortParams (by decide) 0 _
    · intro key member
      rw [keys_ceilingParam member]
      exact ceilingKey_not_mem _ _
  · intro key member
    rw [keys_formulaParam member]
    exact formulaKey_not_mem _ _ _

end Selection

namespace Params

variable {key : String} {front front' back back' : Params}

theorem queryPairs_append (front back : Params) :
    queryPairs (front ++ back) = queryPairs front ++ queryPairs back :=
  List.flatMap_append

theorem key_of_mem_pairsOf {value : Json} {pair : String × String} (member : pair ∈ pairsOf key value) :
    pair.1 = key := by
  cases value with
  | array items =>
    obtain ⟨item, -, rfl⟩ := List.mem_map.mp member
    rfl
  | null | bool | number | string | object => rw [List.mem_singleton.mp member]

theorem key_of_mem_queryPairs {params : Params} {pair : String × String}
    (member : pair ∈ queryPairs params) : pair.1 ∈ Members.keys params := by
  obtain ⟨⟨key, value⟩, inside, shown⟩ := List.mem_flatMap.mp member
  rw [key_of_mem_pairsOf shown]
  exact List.mem_map_of_mem (f := Prod.fst) inside

/-- The pairs of one key are told from those behind them, where it is no key. -/
theorem filter_queryPairs (own : ∀ other ∈ Members.keys front, other = key)
    (apart : key ∉ Members.keys back) :
    (queryPairs (front ++ back)).filter (·.1 = key) = queryPairs front := by
  have kept : (queryPairs front).filter (·.1 = key) = queryPairs front := by
    rw [List.filter_eq_self]
    intro pair member
    simpa using own _ (key_of_mem_queryPairs member)
  have dropped : (queryPairs back).filter (·.1 = key) = [] := by
    rw [List.filter_eq_nil_iff]
    intro pair member same
    simp only [decide_eq_true_eq] at same
    exact apart (same ▸ key_of_mem_queryPairs member)
  rw [queryPairs_append, List.filter_append, kept, dropped, List.append_nil]

theorem queryPairs_part (own : ∀ other ∈ Members.keys front, other = key)
    (own' : ∀ other ∈ Members.keys front', other = key) (apart : key ∉ Members.keys back)
    (apart' : key ∉ Members.keys back')
    (same : queryPairs (front ++ back) = queryPairs (front' ++ back')) :
    queryPairs front = queryPairs front' ∧ queryPairs back = queryPairs back' := by
  have fronts : queryPairs front = queryPairs front' := by
    rw [← filter_queryPairs own apart, same, filter_queryPairs own' apart']
  rw [queryPairs_append, queryPairs_append, fronts] at same
  exact ⟨fronts, List.append_cancel_left same⟩

end Params

namespace Selection

theorem queryPairs_formulaParam (formula : Option String) :
    Params.queryPairs (formulaParam formula) =
      (formula.filter (· ≠ "")).toList.map (formulaKey, ·) := by
  cases formula with
  | none => rfl
  | some text =>
    by_cases empty : text = ""
    · simp [formulaParam, empty, Params.queryPairs, Option.filter_some]
    · simp [formulaParam, empty, Params.queryPairs, Params.pairsOf, Json.plainText, Option.filter_some]

theorem plainText_ofCount (count : UInt64) :
    (Json.ofCount count).plainText = Text.decimal count.toNat := by
  have unsigned : ¬ (count.toNat : Int) < 0 := by omega
  rw [Json.ofCount, Number.ofCount, Json.plainText, Json.plainNumber, Json.integerText,
    if_neg unsigned, List.nil_append, Int.natAbs_natCast, Text.decimal]

theorem queryPairs_ceilingParam (ceiling : Option UInt64) :
    Params.queryPairs (ceilingParam ceiling) =
      (ceiling.filter (· ≠ 0)).toList.map fun count => (ceilingKey, Text.decimal count.toNat) := by
  cases ceiling with
  | none => rfl
  | some count =>
    by_cases zero : count = 0
    · simp [ceilingParam, zero, Params.queryPairs, Option.filter_some]
    · have shown : Params.pairsOf ceilingKey (.ofCount count) =
          [(ceilingKey, Text.decimal count.toNat)] := by
        rw [← plainText_ofCount]
        rfl
      simp [ceilingParam, zero, Params.queryPairs, shown, Option.filter_some]

theorem queryPairs_fieldsParam (fields : Option (List String)) :
    Params.queryPairs (fieldsParam fields) = (fields.getD []).map (fieldsKey, ·) := by
  cases fields with
  | none => rfl
  | some fields =>
    simp [fieldsParam, Params.queryPairs, Params.pairsOf, Json.plainText, Function.comp_def]

theorem queryPairs_sortParams (index : Nat) (keys : List SortKey) :
    Params.queryPairs (sortParams index keys) = sortPairs index keys := by
  induction keys generalizing index with
  | nil => rfl
  | cons first rest ih =>
    have later : Params.queryPairs (sortParams index (first :: rest)) =
        (sortFieldKey index, first.field) :: (sortDirectionKey index, first.direction.text) ::
          Params.queryPairs (sortParams (index + 1) rest) := by
      simp [sortParams, Params.queryPairs, Params.pairsOf, Json.plainText]
    rw [later, ih]
    rfl

theorem getD_filter_nil {α : Type} [DecidableEq α] (items : Option (List α)) :
    (items.filter (· ≠ [])).getD [] = items.getD [] := by
  cases items with
  | none => rfl
  | some items => cases items <;> simp [Option.filter_some]

/-- The pairs that a selection is sent as. -/
theorem queryPairs_params (selection : Selection) :
    Params.queryPairs selection.params = selection.asked.pairs := by
  unfold params pairs asked
  rw [Params.queryPairs_append, Params.queryPairs_append, Params.queryPairs_append,
    queryPairs_formulaParam, queryPairs_ceilingParam, queryPairs_fieldsParam,
    queryPairs_sortParams, getD_filter_nil, getD_filter_nil]

theorem direction_text_injective : Function.Injective Direction.text := by
  intro direction direction' same
  cases direction with
  | ascending =>
    cases direction' with
    | ascending => rfl
    | descending => exact absurd same (by decide)
  | descending =>
    cases direction' with
    | ascending => exact absurd same (by decide)
    | descending => rfl

theorem sortPairs_injective (index : Nat) : Function.Injective (sortPairs index) := by
  intro keys keys' same
  induction keys generalizing index keys' with
  | nil =>
    cases keys' with
    | nil => rfl
    | cons first rest => cases same
  | cons first rest ih =>
    cases keys' with
    | nil => cases same
    | cons first' rest' =>
      obtain ⟨field, behind⟩ := List.cons.inj same
      obtain ⟨direction, later⟩ := List.cons.inj behind
      have heads : first = first' := by
        cases first
        cases first'
        rw [SortKey.mk.injEq]
        exact ⟨(Prod.mk.inj field).2, direction_text_injective (Prod.mk.inj direction).2⟩
      rw [heads, ih (index + 1) later]

theorem filter_eq_of_getD_eq {α : Type} [DecidableEq α] {items items' : Option (List α)}
    (same : items.getD [] = items'.getD []) : items.filter (· ≠ []) = items'.filter (· ≠ []) := by
  have told (items : Option (List α)) : items.filter (· ≠ []) = (some (items.getD [])).filter (· ≠ []) := by
    cases items with
    | none => simp [Option.filter_some]
    | some items => rfl
  rw [told items, told items', same]

theorem map_pair_injective {α : Type} {key : String} {text : α → String}
    (injective : Function.Injective text) :
    Function.Injective (List.map fun value => (key, text value)) := by
  intro values values' same
  rw [List.map_inj_right] at same
  · exact same
  · intro value value' same
    exact injective (Prod.mk.inj same).2

theorem toList_injective {α : Type} : Function.Injective (Option.toList (α := α)) := by
  intro value value' same
  simpa using congrArg List.head? same

theorem asked_of_queryPairs {first second : Selection}
    (same : Params.queryPairs first.params = Params.queryPairs second.params) :
    first.asked = second.asked := by
  unfold params at same
  simp only [List.append_assoc] at same
  obtain ⟨formulas, same⟩ := Params.queryPairs_part (fun _ => keys_formulaParam)
    (fun _ => keys_formulaParam) (formulaKey_not_mem _ _ _) (formulaKey_not_mem _ _ _) same
  obtain ⟨ceilings, same⟩ := Params.queryPairs_part (fun _ => keys_ceilingParam)
    (fun _ => keys_ceilingParam) (ceilingKey_not_mem _ _) (ceilingKey_not_mem _ _) same
  obtain ⟨fields, sorts⟩ := Params.queryPairs_part (fun _ => keys_fieldsParam)
    (fun _ => keys_fieldsParam) (not_mem_sortParams (by decide) 0 _)
    (not_mem_sortParams (by decide) 0 _) same
  rw [queryPairs_formulaParam, queryPairs_formulaParam] at formulas
  rw [queryPairs_ceilingParam, queryPairs_ceilingParam] at ceilings
  rw [queryPairs_fieldsParam, queryPairs_fieldsParam] at fields
  rw [queryPairs_sortParams, queryPairs_sortParams] at sorts
  have counts : Function.Injective fun count : UInt64 => Text.decimal count.toNat :=
    fun _ _ same => UInt64.toNat_inj.mp (Text.decimal_injective same)
  unfold asked
  rw [Selection.mk.injEq]
  exact ⟨toList_injective (map_pair_injective Function.injective_id formulas),
    filter_eq_of_getD_eq (sortPairs_injective 0 sorts),
    filter_eq_of_getD_eq (map_pair_injective Function.injective_id fields),
    toList_injective (map_pair_injective counts ceilings)⟩

/-- Only the fields are a list. -/
theorem key_of_list {selection : Selection} {key : String} {items : List Json}
    (member : (key, .array items) ∈ selection.params) : key = fieldsKey := by
  have sorted (index : Nat) (keys : List SortKey) : (key, .array items) ∉ sortParams index keys := by
    induction keys generalizing index with
    | nil => exact List.not_mem_nil
    | cons first rest ih => simpa [sortParams] using ih (index + 1)
  unfold params at member
  rw [List.mem_append, List.mem_append, List.mem_append] at member
  rcases member with ((inFormula | inCeiling) | inFields) | inSort
  · unfold formulaParam at inFormula
    split at inFormula
    · split at inFormula <;> simp at inFormula
    · cases inFormula
  · unfold ceilingParam at inCeiling
    split at inCeiling
    · split at inCeiling <;> simp [Json.ofCount] at inCeiling
    · cases inCeiling
  · exact keys_fieldsParam (List.mem_map_of_mem (f := Prod.fst) inFields)
  · exact absurd inSort (sorted 0 _)

/-- Two pairs of one key are two of the fields. -/
theorem pairwise_queryPairs (selection : Selection) :
    (Params.queryPairs selection.params).Pairwise fun pair pair' =>
      pair.1 = pair'.1 → pair.1 = fieldsKey := by
  unfold Params.queryPairs
  rw [List.pairwise_flatMap]
  constructor
  · rintro ⟨key, value⟩ member
    cases value with
    | array items =>
      obtain rfl := key_of_list member
      apply List.Pairwise.imp_of_mem (R := fun _ _ => True)
      · intro pair _ inside _ _ _
        exact Params.key_of_mem_pairsOf inside
      · exact List.pairwise_of_forall fun _ _ => trivial
    | null | bool | number | string | object => exact List.pairwise_singleton _ _
  · have distinct := distinct_params selection
    unfold Members.Distinct Members.keys List.Nodup at distinct
    rw [List.pairwise_map] at distinct
    apply distinct.imp
    intro member member' other pair inside pair' inside' same
    rw [Params.key_of_mem_pairsOf inside, Params.key_of_mem_pairsOf inside'] at same
    exact absurd same other

/-- Two selections are sent as the same pairs exactly if they ask for the same: a formula without
text, a ceiling of zero and an empty list are as good as none. The pairs are one for a formula, one
for a ceiling, one for each field and two for each key of the order, numbered from zero. To write
all parameters under their keys, one after the other, overwrites none of them, and no two pairs have
the same key but those of fields. -/
theorem pairs_tell_asked :
    (∀ first second : Selection,
      Params.queryPairs first.params = Params.queryPairs second.params ↔
        first.asked = second.asked) ∧
    ∀ selection : Selection,
      Params.queryPairs selection.params = selection.asked.pairs ∧
      Members.Distinct selection.params ∧
      Members.ofPairs selection.params = selection.params ∧
      (Params.queryPairs selection.params).Pairwise fun pair pair' =>
        pair.1 = pair'.1 → pair.1 = fieldsKey := by
  refine ⟨fun first second => ⟨asked_of_queryPairs, fun same => ?_⟩, fun selection => ?_⟩
  · rw [queryPairs_params, queryPairs_params, same]
  · have distinct := distinct_params selection
    exact ⟨queryPairs_params selection, distinct, Members.ofPairs_of_distinct distinct,
      pairwise_queryPairs selection⟩

end Selection
end TableClient
