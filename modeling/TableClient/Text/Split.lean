/-! Texts cut at a separator, and put together again. -/
namespace TableClient.Text

/-- The parts between separators; a text without any is one part. -/
def splitOn (separator : Char → Bool) : List Char → List (List Char)
  | [] => [[]]
  | c :: rest =>
    if separator c then [] :: splitOn separator rest
    else
      match splitOn separator rest with
      | [] => [[c]]
      | part :: others => (c :: part) :: others

/-- What stands in front of the first separator, and the separator with all behind it. -/
def spanUntil (separator : Char → Bool) (text : List Char) : List Char × List Char :=
  (text.takeWhile fun c => !separator c, text.dropWhile fun c => !separator c)

/-- The parts with a separator between each two. -/
def joinWith (separator : List Char) : List (List Char) → List Char
  | [] => []
  | [part] => part
  | part :: next :: rest => part ++ separator ++ joinWith separator (next :: rest)

theorem not_separator_of_mem_splitOn {separator : Char → Bool} {text part : List Char} {c : Char}
    (found : part ∈ splitOn separator text) (inside : c ∈ part) : ¬separator c := by
  induction text generalizing part with
  | nil => simp_all [splitOn]
  | cons first rest ih =>
    unfold splitOn at found
    split at found
    · rcases List.mem_cons.mp found with rfl | found
      · simp at inside
      · exact ih found inside
    · rename_i plain
      split at found
      · simp_all
      · rename_i head others parts
        rcases List.mem_cons.mp found with rfl | found
        · rcases List.mem_cons.mp inside with rfl | inside
          · exact plain
          · exact ih (by simp [parts]) inside
        · exact ih (by simp [parts, found]) inside

end TableClient.Text
