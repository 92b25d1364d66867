/-! Members of an object: key and value pairs kept in the order in which their keys were
first written. Writing a key again replaces its value and leaves its position; taking a
key out moves the last member into the gap. All operations act on the first member of a
key, so a list that repeats keys (text as written) is still readable. -/
namespace TableClient

abbrev Members (α : Type) := List (String × α)

namespace Members

variable {α β : Type}

def keys (members : Members α) : List String := members.map Prod.fst

/-- No key occurs twice. -/
def Distinct (members : Members α) : Prop := (keys members).Nodup

instance (members : Members α) : Decidable (Distinct members) :=
  inferInstanceAs (Decidable (List.Nodup _))

def get? : Members α → String → Option α
  | [], _ => none
  | (key, value) :: rest, wanted => if key = wanted then some value else get? rest wanted

def insert : Members α → String → α → Members α
  | [], added, value => [(added, value)]
  | (key, old) :: rest, added, value =>
    if key = added then (key, value) :: rest else (key, old) :: insert rest added value

/-- Writes the given pairs one after the other. -/
def insertAll (members : Members α) : List (String × α) → Members α
  | [] => members
  | (key, value) :: rest => insertAll (insert members key value) rest

/-- The last value of each key, at the place of its first occurrence. -/
def ofPairs (pairs : List (String × α)) : Members α := insertAll [] pairs

/-- Puts the last of the later members in front of the others, in place of the one taken out. -/
def closeGap (rest : Members α) : Members α :=
  match rest.getLast? with
  | none => []
  | some last => last :: rest.dropLast

/-- Takes a key out; the last member takes its place. -/
def swapRemove : Members α → String → Members α
  | [], _ => []
  | (key, value) :: rest, removed =>
    if key = removed then closeGap rest else (key, value) :: swapRemove rest removed

@[simp] theorem get?_nil (wanted : String) : get? ([] : Members α) wanted = none := rfl

@[simp] theorem insertAll_nil (members : Members α) : insertAll members [] = members := rfl

@[simp] theorem insertAll_cons (members : Members α) (key : String) (value : α)
    (rest : List (String × α)) :
    insertAll members ((key, value) :: rest) = insertAll (insert members key value) rest := rfl

theorem get?_insert_self (members : Members α) (key : String) (value : α) :
    get? (insert members key value) key = some value := by
  induction members with
  | nil => simp [insert, get?]
  | cons member rest ih =>
    obtain ⟨first, old⟩ := member
    by_cases same : first = key <;> simp [insert, get?, same, ih]

theorem get?_insert_ne (members : Members α) (value : α) {key wanted : String}
    (different : key ≠ wanted) : get? (insert members key value) wanted = get? members wanted := by
  induction members with
  | nil => simp [insert, get?, different]
  | cons member rest ih =>
    obtain ⟨first, old⟩ := member
    by_cases same : first = key
    · subst same
      simp [insert, get?, different]
    · by_cases found : first = wanted
      · subst found
        simp [insert, get?, same]
      · simp [insert, get?, same, found, ih]

theorem keys_insert (members : Members α) (key : String) (value : α) :
    keys (insert members key value) =
      if key ∈ keys members then keys members else keys members ++ [key] := by
  induction members with
  | nil => simp [insert, keys]
  | cons member rest ih =>
    obtain ⟨first, old⟩ := member
    by_cases same : first = key
    · simp [insert, keys, same]
    · have other : key ≠ first := fun h => same h.symm
      simp only [keys] at ih
      simp only [insert, same, keys, List.map_cons, if_false, ih, List.mem_cons, other, false_or]
      split <;> simp_all

theorem distinct_insert {members : Members α} (key : String) (value : α)
    (distinct : Distinct members) : Distinct (insert members key value) := by
  unfold Distinct
  rw [keys_insert]
  split
  · exact distinct
  · rename_i absent
    rw [List.nodup_append]
    refine ⟨distinct, by simp, ?_⟩
    intro a ha b hb same
    simp only [List.mem_singleton] at hb
    exact absent (by rw [← hb, ← same]; exact ha)

theorem distinct_insertAll {members : Members α} (pairs : List (String × α))
    (distinct : Distinct members) : Distinct (insertAll members pairs) := by
  induction pairs generalizing members with
  | nil => exact distinct
  | cons pair rest ih =>
    obtain ⟨key, value⟩ := pair
    exact ih (distinct_insert key value distinct)

end Members
end TableClient
