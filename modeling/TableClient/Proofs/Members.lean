import Mathlib.Data.List.Induction
import TableClient.Members
/-! Laws of writing members over others, and of taking one out. A key that is written has the value
written last, any other key keeps its value, and the first member stays the first. A key that is
taken out leaves all other members, the last of which may have moved. -/
namespace TableClient.Members

variable {members pairs : Members α} {key : String} {value : α}

theorem mem_of_get? (found : get? members key = some value) : (key, value) ∈ members := by
  induction members with
  | nil => cases found
  | cons member rest ih =>
    obtain ⟨first, held⟩ := member
    by_cases same : first = key
    · obtain rfl : held = value := by simpa [get?, same] using found
      exact same ▸ List.mem_cons_self
    · exact List.mem_cons_of_mem _ (ih (by simpa [get?, same] using found))

theorem get?_of_mem (distinct : Distinct members) (member : (key, value) ∈ members) :
    get? members key = some value := by
  induction members with
  | nil => cases member
  | cons head rest ih =>
    obtain ⟨absent, distinct⟩ := List.nodup_cons.mp distinct
    rcases List.mem_cons.mp member with rfl | later
    · simp [get?]
    · have other : head.1 ≠ key := by
        intro same
        exact absent (same ▸ List.mem_map_of_mem (f := Prod.fst) later)
      simpa [get?, other] using ih distinct later

theorem get?_eq_none (absent : key ∉ keys members) : get? members key = none := by
  rw [Option.eq_none_iff_forall_ne_some]
  intro value found
  exact absent (List.mem_map_of_mem (f := Prod.fst) (mem_of_get? found))

theorem get?_append_of_absent {front : Members α} (absent : key ∉ keys front) (back : Members α) :
    get? (front ++ back) key = get? back key := by
  induction front with
  | nil => rfl
  | cons member rest ih =>
    have other : member.1 ≠ key := fun same => absent (same ▸ List.mem_cons_self)
    have later : key ∉ keys rest := fun inside => absent (List.mem_cons_of_mem _ inside)
    simpa [get?, other] using ih later

theorem distinct_append {front back : Members α} (distinct : Distinct front)
    (distinct' : Distinct back) (apart : ∀ key ∈ keys front, key ∉ keys back) :
    Distinct (front ++ back) := by
  unfold Distinct keys
  rw [List.map_append, List.nodup_append]
  refine ⟨distinct, distinct', ?_⟩
  rintro key member _ member' rfl
  exact apart key member member'

/-- A key that is kept keeps its value. -/
theorem get?_filter (keep : String → Bool) (members : Members α) (kept : keep key) :
    get? (members.filter fun (name, _) => keep name) key = get? members key := by
  induction members with
  | nil => rfl
  | cons member rest ih =>
    obtain ⟨first, held⟩ := member
    by_cases same : first = key
    · subst same
      simp [get?, kept]
    · by_cases stays : keep first
      · simpa [get?, same, stays] using ih
      · simpa [get?, same, stays] using ih

/-- A key has the value written to it, or the one it had if none is. -/
theorem get?_insertAll (members : Members α) (distinct : Distinct pairs) (key : String) :
    get? (insertAll members pairs) key = (get? pairs key).or (get? members key) := by
  induction pairs generalizing members with
  | nil => rfl
  | cons pair rest ih =>
    obtain ⟨written, value⟩ := pair
    obtain ⟨absent, distinct⟩ := List.nodup_cons.mp distinct
    rw [insertAll_cons, ih _ distinct]
    by_cases same : written = key
    · subst same
      rw [get?_eq_none absent, get?_insert_self]
      simp [get?]
    · rw [get?_insert_ne _ _ same]
      simp [get?, same]

/-- A key that is not written keeps its value. -/
theorem get?_insertAll_of_absent (members : Members α) (absent : key ∉ keys pairs) :
    get? (insertAll members pairs) key = get? members key := by
  induction pairs generalizing members with
  | nil => rfl
  | cons pair rest ih =>
    have other : pair.1 ≠ key := fun same => absent (same ▸ List.mem_cons_self)
    have later : key ∉ keys rest := fun inside => absent (List.mem_cons_of_mem _ inside)
    rw [insertAll_cons, ih _ later, get?_insert_ne _ _ other]

theorem mem_insert {other : α} (member : (key, value) ∈ insert members written other) :
    (key, value) ∈ members ∨ (key, value) = (written, other) := by
  induction members with
  | nil => exact .inr (List.mem_singleton.mp member)
  | cons head rest ih =>
    obtain ⟨first, old⟩ := head
    rw [insert] at member
    split at member
    · rename_i same
      rcases List.mem_cons.mp member with new | later
      · exact .inr (same ▸ new)
      · exact .inl (List.mem_cons_of_mem _ later)
    · rcases List.mem_cons.mp member with kept | later
      · exact .inl (kept ▸ List.mem_cons_self)
      · exact (ih later).imp (List.mem_cons_of_mem _) fun new => new

theorem mem_insertAll (member : (key, value) ∈ insertAll members pairs) :
    (key, value) ∈ members ∨ (key, value) ∈ pairs := by
  induction pairs generalizing members with
  | nil => exact .inl member
  | cons pair rest ih =>
    rcases ih member with kept | later
    · rcases mem_insert kept with old | new
      · exact .inl old
      · exact .inr (new ▸ List.mem_cons_self)
    · exact .inr (List.mem_cons_of_mem _ later)

/-- The first member stays if no other value is written to its key. -/
theorem insertAll_cons_eq (members : Members α) (first : String) (value : α)
    (agree : ∀ other, (first, other) ∈ pairs → other = value) :
    ∃ rest, insertAll ((first, value) :: members) pairs = (first, value) :: rest := by
  induction pairs generalizing members with
  | nil => exact ⟨members, rfl⟩
  | cons pair rest ih =>
    obtain ⟨key, other⟩ := pair
    have agreeLater : ∀ other, (first, other) ∈ rest → other = value :=
      fun other member => agree other (List.mem_cons_of_mem _ member)
    rw [insertAll_cons, insert]
    by_cases same : first = key
    · subst same
      obtain rfl := agree other List.mem_cons_self
      rw [if_pos rfl]
      exact ih members agreeLater
    · rw [if_neg same]
      exact ih _ agreeLater

theorem insert_of_absent (absent : key ∉ keys members) (value : α) :
    insert members key value = members ++ [(key, value)] := by
  induction members with
  | nil => rfl
  | cons member rest ih =>
    have other : member.1 ≠ key := fun same => absent (same ▸ List.mem_cons_self)
    have later : key ∉ keys rest := fun inside => absent (List.mem_cons_of_mem _ inside)
    rw [insert, if_neg other, ih later, List.cons_append]

theorem absent_of_distinct {front back : Members α}
    (distinct : Distinct (front ++ (key, value) :: back)) : key ∉ keys front ∧ key ∉ keys back := by
  unfold Distinct keys at distinct
  rw [List.map_append, List.nodup_append] at distinct
  obtain ⟨-, behind, apart⟩ := distinct
  exact ⟨fun inside => apart key inside key List.mem_cons_self rfl, (List.nodup_cons.mp behind).1⟩

theorem distinct_behind {front back : Members α} {member : String × α}
    (distinct : Distinct (front ++ member :: back)) : Distinct back := by
  unfold Distinct keys at distinct
  rw [List.map_append, List.nodup_append] at distinct
  exact (List.nodup_cons.mp distinct.2.1).2

theorem insertAll_of_distinct (distinct : Distinct (members ++ pairs)) :
    insertAll members pairs = members ++ pairs := by
  induction pairs generalizing members with
  | nil => exact (List.append_nil members).symm
  | cons pair rest ih =>
    obtain ⟨key, value⟩ := pair
    have absent := (absent_of_distinct distinct).1
    rw [List.append_cons] at distinct
    rw [insertAll_cons, insert_of_absent absent, ih distinct, ← List.append_cons]

/-- Members that repeat no key are read back as they are. -/
theorem ofPairs_of_distinct (distinct : Distinct members) : ofPairs members = members :=
  insertAll_of_distinct distinct

theorem insertAll_append (members : Members α) (front back : Members α) :
    insertAll members (front ++ back) = insertAll (insertAll members front) back := by
  induction front generalizing members with
  | nil => rfl
  | cons pair rest ih => exact ih (insert members pair.1 pair.2)

theorem mem_keys_insert {other : String} :
    other ∈ keys (insert members key value) ↔ other ∈ keys members ∨ other = key := by
  rw [keys_insert]
  split
  · rename_i held
    exact ⟨.inl, fun either => either.elim id fun same => same ▸ held⟩
  · rw [List.mem_append, List.mem_singleton]

theorem mem_keys_insertAll {other : String} :
    other ∈ keys (insertAll members pairs) ↔ other ∈ keys members ∨ other ∈ keys pairs := by
  induction pairs generalizing members with
  | nil => exact (or_iff_left List.not_mem_nil).symm
  | cons pair rest ih =>
    rw [insertAll_cons, ih, mem_keys_insert, or_assoc]
    exact or_congr_right List.mem_cons.symm

theorem insert_insert_self (members : Members α) (key : String) (first second : α) :
    insert (insert members key first) key second = insert members key second := by
  induction members with
  | nil => simp [insert]
  | cons member rest ih =>
    by_cases same : member.1 = key
    · simp [insert, same]
    · simp [insert, same, ih]

/-- Writes to two keys can change places if one of them is there, since only new keys have an
order among themselves. -/
theorem insert_comm {other : String} (held : other ∈ keys members) (different : key ≠ other)
    (first second : α) :
    insert (insert members key first) other second =
      insert (insert members other second) key first := by
  induction members with
  | nil => exact absurd held List.not_mem_nil
  | cons member rest ih =>
    obtain ⟨name, old⟩ := member
    by_cases same : name = key
    · subst same
      simp [insert, different]
    · by_cases found : name = other
      · subst found
        simp [insert, same]
      · have later : other ∈ keys rest := by
          rcases List.mem_cons.mp held with own | later
          · exact absurd own.symm found
          · exact later
        simp [insert, same, found, ih later]

/-- A write that is made again behind others counts as the last one does, where the others bring no
new key. -/
theorem insert_insertAll_insert (held : ∀ other ∈ keys pairs, other ∈ keys members) (key : String)
    (first second : α) :
    insert (insertAll (insert members key first) pairs) key second =
      insert (insertAll members pairs) key second := by
  induction pairs generalizing members with
  | nil => exact insert_insert_self members key first second
  | cons pair rest ih =>
    obtain ⟨other, value⟩ := pair
    have own : other ∈ keys members := held other List.mem_cons_self
    have later : ∀ name ∈ keys rest, name ∈ keys (insert members other value) := fun name member =>
      mem_keys_insert.mpr (.inl (held name (List.mem_cons_of_mem _ member)))
    rw [insertAll_cons, insertAll_cons]
    by_cases same : key = other
    · subst same
      rw [insert_insert_self]
    · rw [insert_comm own same, ih later]

/-- Pairs that are written again change nothing, also where one of them overrides another. -/
theorem insertAll_insertAll_self (members pairs : Members α) :
    insertAll (insertAll members pairs) pairs = insertAll members pairs := by
  induction pairs using List.reverseRecOn with
  | nil => rfl
  | append_singleton front pair ih =>
    obtain ⟨key, value⟩ := pair
    have held : ∀ other ∈ keys front, other ∈ keys (insertAll members front) := fun other member =>
      mem_keys_insertAll.mpr (.inr member)
    simp only [insertAll_append, insertAll_cons, insertAll_nil]
    rw [insert_insertAll_insert held, ih]

/-- A key that is there and not written by others can be written in front of them or behind. -/
theorem insert_insertAll_of_absent (absent : key ∉ keys pairs) (held : key ∈ keys members)
    (value : α) :
    insert (insertAll members pairs) key value = insertAll (insert members key value) pairs := by
  induction pairs generalizing members with
  | nil => rfl
  | cons pair rest ih =>
    have other : pair.1 ≠ key := fun same => absent (same ▸ List.mem_cons_self)
    have later : key ∉ keys rest := fun inside => absent (List.mem_cons_of_mem _ inside)
    rw [insertAll_cons, insertAll_cons, ih later (mem_keys_insert.mpr (.inl held)),
      insert_comm held other]

theorem insertAll_insert (distinct : Distinct pairs) (members : Members α) (key : String)
    (value : α) :
    insertAll members (insert pairs key value) = insert (insertAll members pairs) key value := by
  induction pairs generalizing members with
  | nil => rfl
  | cons pair rest ih =>
    obtain ⟨first, old⟩ := pair
    obtain ⟨absent, distinct⟩ := List.nodup_cons.mp distinct
    rw [insert]
    split
    · rename_i same
      subst same
      have held : first ∈ keys (insert members first old) := mem_keys_insert.mpr (.inr rfl)
      rw [insertAll_cons, insertAll_cons, insert_insertAll_of_absent absent held, insert_insert_self]
    · exact ih distinct (insert members first old)

/-- Members over others over others: it does not matter which are put together first. -/
theorem insertAll_insertAll (distinct : Distinct pairs) (members later : Members α) :
    insertAll members (insertAll pairs later) = insertAll (insertAll members pairs) later := by
  induction later generalizing pairs with
  | nil => rfl
  | cons pair rest ih =>
    rw [insertAll_cons, insertAll_cons, ih (distinct_insert _ _ distinct),
      insertAll_insert distinct]

/-- Members with others over them: a key that is in both keeps its place and has the later value,
and the new keys follow in their order. -/
def overlay (members pairs : Members α) : Members α :=
  (members.map fun (key, value) => (key, (get? pairs key).getD value)) ++
    pairs.filter fun (key, _) => key ∉ keys members

theorem fst_ne_of_mem {member : String × α} (absent : key ∉ keys members)
    (inside : member ∈ members) : member.1 ≠ key :=
  fun same => absent (same ▸ List.mem_map_of_mem inside)

theorem insert_of_mem (distinct : Distinct members) (held : key ∈ keys members) (value : α) :
    insert members key value =
      members.map fun (name, old) => (name, if name = key then value else old) := by
  induction members with
  | nil => cases held
  | cons member rest ih =>
    obtain ⟨first, old⟩ := member
    obtain ⟨absent, distinct⟩ := List.nodup_cons.mp distinct
    rw [insert, List.map_cons]
    split
    · rename_i same
      subst same
      have kept : (rest.map fun (name, old) => (name, if name = first then value else old)) = rest := by
        rw [List.map_congr_left (g := id), List.map_id]
        intro member inside
        simp [fst_ne_of_mem absent inside]
      simp [kept]
    · rename_i different
      have later : key ∈ keys rest := by
        rcases List.mem_cons.mp held with own | later
        · exact absurd own.symm different
        · exact later
      simp [different, ih distinct later]

/-- Other members do not notice a write. -/
theorem filter_insert (members : Members α) (key : String) (value : α) :
    ((insert members key value).filter fun (name, _) => name ≠ key) =
      members.filter fun (name, _) => name ≠ key := by
  induction members with
  | nil => simp [insert]
  | cons member rest ih =>
    by_cases same : member.1 = key
    · simp [insert, same]
    · simpa [insert, same] using ih

theorem insertAll_eq_overlay (distinct : Distinct members) (distinct' : Distinct pairs) :
    insertAll members pairs = overlay members pairs := by
  induction pairs generalizing members with
  | nil => simp [overlay, get?]
  | cons pair rest ih =>
    obtain ⟨key, value⟩ := pair
    obtain ⟨absent, distinct'⟩ := List.nodup_cons.mp distinct'
    have unwritten : get? rest key = none := get?_eq_none absent
    rw [insertAll_cons, ih (distinct_insert _ _ distinct) distinct', overlay, overlay, keys_insert]
    by_cases held : key ∈ keys members
    · rw [insert_of_mem distinct held, if_pos held, List.filter_cons_of_neg (by simpa using held),
        List.map_map]
      congr 1
      apply List.map_congr_left
      intro member _
      by_cases same : member.1 = key
      · simp [get?, same, unwritten]
      · simp [get?, same, Ne.symm same]
    · rw [insert_of_absent held, if_neg held, List.filter_cons_of_pos (by simpa using held),
        List.map_append, List.append_assoc]
      congr 1
      · apply List.map_congr_left
        intro member inside
        simp [get?, (fst_ne_of_mem held inside).symm]
      · have own : (get? rest key).getD value = value := by rw [unwritten, Option.getD_none]
        rw [List.map_singleton, List.singleton_append]
        dsimp only
        rw [own]
        congr 1
        apply List.filter_congr
        intro member inside
        simp [fst_ne_of_mem absent inside]

theorem swapRemove_of_absent (absent : key ∉ keys members) : swapRemove members key = members := by
  induction members with
  | nil => rfl
  | cons member rest ih =>
    have other : member.1 ≠ key := fun same => absent (same ▸ List.mem_cons_self)
    have later : key ∉ keys rest := fun inside => absent (List.mem_cons_of_mem _ inside)
    rw [swapRemove, if_neg other, ih later]

theorem swapRemove_append {front : Members α} (absent : key ∉ keys front) (value : α)
    (back : Members α) :
    swapRemove (front ++ (key, value) :: back) key = front ++ closeGap back := by
  induction front with
  | nil => exact if_pos rfl
  | cons member rest ih =>
    have other : member.1 ≠ key := fun same => absent (same ▸ List.mem_cons_self)
    have later : key ∉ keys rest := fun inside => absent (List.mem_cons_of_mem _ inside)
    rw [List.cons_append, swapRemove, if_neg other, ih later, List.cons_append]

theorem closeGap_append_one (front : Members α) (last : String × α) :
    closeGap (front ++ [last]) = last :: front := by
  simp [closeGap]

theorem closeGap_perm (members : Members α) : (closeGap members).Perm members := by
  cases members using List.reverseRecOn with
  | nil => exact .nil
  | append_singleton front last =>
    rw [closeGap_append_one]
    exact (List.perm_append_singleton last front).symm

theorem closeGap_of_short (short : members.length ≤ 1) : closeGap members = members := by
  match members with
  | [] => rfl
  | [_] => rfl

theorem filter_of_absent (absent : key ∉ keys members) :
    (members.filter fun (name, _) => name ≠ key) = members := by
  rw [List.filter_eq_self]
  intro member inside
  simpa using fst_ne_of_mem absent inside

theorem filter_append_cons {front back : Members α} (absent : key ∉ keys front)
    (absent' : key ∉ keys back) (value : α) :
    ((front ++ (key, value) :: back).filter fun (name, _) => name ≠ key) = front ++ back := by
  rw [List.filter_append, List.filter_cons_of_neg (by simp), filter_of_absent absent,
    filter_of_absent absent']

/-- Taking a key out keeps all the other members. -/
theorem swapRemove_perm (distinct : Distinct members) (key : String) :
    (swapRemove members key).Perm (members.filter fun (name, _) => name ≠ key) := by
  by_cases held : key ∈ keys members
  · obtain ⟨⟨_, value⟩, inside, rfl⟩ := List.mem_map.mp held
    obtain ⟨front, back, rfl⟩ := List.append_of_mem inside
    obtain ⟨absent, absent'⟩ := absent_of_distinct distinct
    rw [swapRemove_append absent, filter_append_cons absent absent']
    exact (closeGap_perm back).append_left front
  · rw [swapRemove_of_absent held, filter_of_absent held]

end TableClient.Members
