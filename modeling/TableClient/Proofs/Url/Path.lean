import TableClient.Proofs.Url.Percent
import TableClient.Url.Path
/-! What a name does to the path that it is added to. Encoding leaves dots as they are and encodes
the percent sign, so a name counts as dots only if it is dots, perhaps with dropped characters
between them. Any other name is one more segment behind those of the path. -/
namespace TableClient.Url

namespace SchemeKind

theorem segmentAllowed_percent (kind : SchemeKind) : kind.segmentAllowed '%' = false := by
  cases kind <;> decide

theorem segmentAllowed_dot (kind : SchemeKind) : kind.segmentAllowed '.' = true := by
  cases kind <;> decide

end SchemeKind

namespace Path

variable {segment rest : List Char}

theorem toLower_cases (c : Char) :
    c.toLower = c ∨ (65 ≤ c.toNat ∧ c.toNat ≤ 90 ∧ c.toLower.toNat = c.toNat + 32) := by
  unfold Char.toLower
  split
  · rename_i upper
    right
    obtain ⟨lower, upper⟩ := upper
    rw [ge_iff_le, UInt32.le_iff_toNat_le] at lower
    rw [UInt32.le_iff_toNat_le] at upper
    have first : 'A'.val.toNat = 65 := rfl
    have last : 'Z'.val.toNat = 90 := rfl
    have gap : ('a'.val - 'A'.val).toNat = 32 := rfl
    change 65 ≤ c.val.toNat ∧ c.val.toNat ≤ 90 ∧ (c.val + ('a'.val - 'A'.val)).toNat = c.val.toNat + 32
    rw [UInt32.toNat_add, gap]
    omega
  · exact .inl rfl

theorem eq_of_toLower {c d : Char} (same : c.toLower = d) (small : d.toNat < 97) : c = d := by
  rcases toLower_cases c with kept | ⟨lower, -, moved⟩
  · exact kept.symm.trans same
  · rw [same] at moved
    omega

theorem eq_of_toLower_e {c : Char} (same : c.toLower = 'e') : c = 'e' ∨ c = 'E' := by
  rcases toLower_cases c with kept | ⟨-, -, moved⟩
  · exact .inl (kept.symm.trans same)
  · rw [same] at moved
    right
    have code : 'e'.toNat = 101 := rfl
    have value : c.toNat = 'E'.toNat := by
      rw [code] at moved
      change c.toNat = 69
      omega
    exact Char.toNat_inj.mp value

def dotSpellings : List (List Char) := [['.'], ['%', '2', 'e']]

/-- A dot in front stands for its own byte, however it is spelled. -/
theorem decode_dot {dot : List Char} (spelled : dot ∈ dotSpellings)
    (lower : segment.map Char.toLower = dot ++ rest) :
    ∃ behind, behind.map Char.toLower = rest ∧
      Percent.decode segment = 0x2E :: Percent.decode behind := by
  simp only [dotSpellings, List.mem_cons, List.not_mem_nil, or_false] at spelled
  rcases spelled with rfl | rfl
  · obtain ⟨c, behind, rfl, dot, same⟩ := List.map_eq_cons_iff.mp lower
    obtain rfl := eq_of_toLower dot (by decide)
    exact ⟨behind, same, Percent.decode_cons (by decide) behind⟩
  · obtain ⟨c, tail, rfl, percent, lower⟩ := List.map_eq_cons_iff.mp lower
    obtain ⟨d, tail, rfl, two, lower⟩ := List.map_eq_cons_iff.mp lower
    obtain ⟨e, behind, rfl, letter, same⟩ := List.map_eq_cons_iff.mp lower
    obtain rfl := eq_of_toLower percent (by decide)
    obtain rfl := eq_of_toLower two (by decide)
    refine ⟨behind, same, ?_⟩
    rcases eq_of_toLower_e letter with rfl | rfl <;> rfl

theorem decode_last_dot {dot : List Char} (spelled : dot ∈ dotSpellings)
    (lower : segment.map Char.toLower = dot) : Percent.decode segment = [0x2E] := by
  obtain ⟨behind, ends, decoded⟩ := decode_dot spelled (lower.trans (List.append_nil dot).symm)
  rw [decoded, List.map_eq_nil_iff.mp ends]
  rfl

theorem decode_two_dots {first second : List Char} (spelled : first ∈ dotSpellings)
    (spelled' : second ∈ dotSpellings) (lower : segment.map Char.toLower = first ++ second) :
    Percent.decode segment = [0x2E, 0x2E] := by
  obtain ⟨behind, next, decoded⟩ := decode_dot spelled lower
  rw [decoded, decode_last_dot spelled' next]

theorem decode_of_isSingleDot (dot : isSingleDot segment) : Percent.decode segment = [0x2E] := by
  simp only [isSingleDot, Bool.or_eq_true, decide_eq_true_eq] at dot
  rcases dot with lower | lower
  · exact decode_last_dot (by decide) lower
  · exact decode_last_dot (by decide) lower

theorem decode_of_isDoubleDot (dots : isDoubleDot segment) :
    Percent.decode segment = [0x2E, 0x2E] := by
  have plain : ['.'] ∈ dotSpellings := by decide
  have group : ['%', '2', 'e'] ∈ dotSpellings := by decide
  unfold isDoubleDot at dots
  split at dots
  · exact decode_two_dots plain plain ‹_›
  · exact decode_two_dots plain group ‹_›
  · exact decode_two_dots group plain ‹_›
  · exact decode_two_dots group group ‹_›
  · cases dots

variable {kind : SchemeKind} {path : Path} {text : List Char}

theorem encode_dots (kind : SchemeKind) (dots : ∀ c ∈ text, c = '.') :
    Percent.encode kind.segmentAllowed text = text := by
  induction text with
  | nil => rfl
  | cons c rest ih =>
    obtain rfl := dots c List.mem_cons_self
    have shown : Percent.encodeChar kind.segmentAllowed '.' = ['.'] :=
      if_pos ⟨by decide, kind.segmentAllowed_dot⟩
    rw [Percent.encode, List.flatMap_cons, shown]
    exact congrArg ('.' :: ·) (ih fun c member => dots c (List.mem_cons_of_mem _ member))

/-- Only a dot counts as a dot. -/
theorem isSingleDot_encode_iff :
    isSingleDot (Percent.encode kind.segmentAllowed text) ↔ text = ['.'] := by
  constructor
  · intro dot
    have bytes := decode_of_isSingleDot dot
    rw [Percent.decode_encode kind.segmentAllowed_percent] at bytes
    exact Percent.utf8_injective (bytes.trans (by decide))
  · rintro rfl
    rw [encode_dots kind (by simp)]
    decide

/-- Only two dots count as two. -/
theorem isDoubleDot_encode_iff :
    isDoubleDot (Percent.encode kind.segmentAllowed text) ↔ text = ['.', '.'] := by
  constructor
  · intro dots
    have bytes := decode_of_isDoubleDot dots
    rw [Percent.decode_encode kind.segmentAllowed_percent] at bytes
    exact Percent.utf8_injective (bytes.trans (by decide))
  · rintro rfl
    rw [encode_dots kind (by simp)]
    decide

/-- A file's path has no empty segment in front of others. -/
def Settled (kind : SchemeKind) (path : Path) : Prop := settle kind path = path

theorem length_dropEmptyFront_le (path : Path) : (dropEmptyFront path).length ≤ path.length := by
  fun_induction dropEmptyFront path with
  | case1 next rest ih => exact Nat.le_succ_of_le ih
  | case2 => exact Nat.le_refl _

theorem dropEmptyFront_idem (path : Path) : dropEmptyFront (dropEmptyFront path) = dropEmptyFront path := by
  fun_induction dropEmptyFront path with
  | case1 next rest ih => exact ih
  | case2 path other =>
    rw [dropEmptyFront]
    exact other

theorem settled_settle (kind : SchemeKind) (path : Path) : Settled kind (settle kind path) := by
  cases kind with
  | file => exact dropEmptyFront_idem path
  | web | other => rfl

theorem length_settle_le (kind : SchemeKind) (path : Path) :
    (settle kind path).length ≤ path.length := by
  cases kind with
  | file => exact length_dropEmptyFront_le path
  | web | other => exact Nat.le_refl _

/-- The segments that stay in front of a name that is added: the path `/` has none. -/
def kept (path : Path) : Path := if path = [[]] then [] else path

theorem settled_single (kind : SchemeKind) (segment : List Char) : Settled kind [segment] := by
  cases kind with
  | file => cases segment <;> rfl
  | web | other => rfl

/-- A path that goes on behind another one with at least one segment. -/
def Continues (path longer : Path) : Prop := ∃ more ≠ [], longer = kept path ++ more

theorem kept_of_ne (other : path ≠ [[]]) : kept path = path := if_neg other

theorem length_kept_of_ne (other : path ≠ [[]]) : (kept path).length = path.length := by
  rw [kept_of_ne other]

variable {more : Path}

theorem not_settled_of_empty_front (next : List Char) (rest : Path) :
    ¬ Settled .file ([] :: next :: rest) := by
  intro settled
  have same : dropEmptyFront (next :: rest) = [] :: next :: rest := settled
  have shorter := length_dropEmptyFront_le (next :: rest)
  rw [same] at shorter
  exact absurd shorter (by simp)

theorem settled_popIfEmpty (settled : Settled kind path) : Settled kind path.popIfEmpty := by
  cases kind with
  | web | other => rfl
  | file =>
    match path with
    | [] => rfl
    | [segment] => cases segment <;> rfl
    | [] :: next :: rest => exact absurd settled (not_settled_of_empty_front next rest)
    | (c :: first) :: next :: rest =>
      unfold popIfEmpty
      split
      · rfl
      · rfl

theorem settled_append (settled : Settled kind path) (settled' : Settled kind more) :
    Settled kind (kept path ++ more) := by
  cases kind with
  | web | other => rfl
  | file =>
    match path with
    | [] | [[]] => exact settled'
    | [] :: next :: rest => exact absurd settled (not_settled_of_empty_front next rest)
    | (c :: first) :: rest => rfl

theorem kept_append_eq_iff (present : more ≠ []) :
    kept path ++ more = path ↔ path = [[]] ∧ more = [[]] := by
  by_cases root : path = [[]]
  · subst root
    exact ⟨fun same => ⟨rfl, same⟩, fun same => same.2⟩
  · rw [kept_of_ne root, List.append_right_eq_self]
    exact ⟨fun empty => absurd empty present, fun same => absurd same.1 root⟩

/-- Segments behind those of a path make another path that goes on behind it, unless the one and
the other are a single empty segment. -/
theorem beyond_append_iff (settled : Settled kind path) (settled' : Settled kind more)
    (present : more ≠ []) :
    (settle kind (kept path ++ more) ≠ path ∧ Continues path (settle kind (kept path ++ more))) ↔
      ¬ (path = [[]] ∧ more = [[]]) := by
  have stays : settle kind (kept path ++ more) = kept path ++ more := settled_append settled settled'
  rw [stays, ne_eq, kept_append_eq_iff present, and_iff_left]
  exact ⟨more, present, rfl⟩

theorem not_continues_of_length {longer : Path} (other : path ≠ [[]])
    (short : longer.length ≤ path.length) : ¬ Continues path longer := by
  rintro ⟨more, present, rfl⟩
  rw [List.length_append, length_kept_of_ne other] at short
  have some : 0 < more.length := List.length_pos_iff.mpr present
  omega

theorem text_eq_nil_iff : Path.text path = [] ↔ path = [] := by
  cases path <;> simp [Path.text]

/-- A path that goes on behind another one has another text. -/
theorem text_ne_of_continues {longer : Path} (continues : Continues path longer)
    (other : longer ≠ path) : Path.text longer ≠ Path.text path := by
  obtain ⟨more, present, rfl⟩ := continues
  by_cases root : path = [[]]
  · subst root
    intro same
    match more with
    | segment :: rest =>
      have shown : '/' :: (segment ++ Path.text rest) = ['/'] := same
      obtain ⟨empty, ends⟩ := List.append_eq_nil_iff.mp (List.cons.inj shown).2
      rw [empty, text_eq_nil_iff.mp ends] at other
      exact other rfl
  · rw [kept_of_ne root, Path.text, List.flatMap_append]
    intro same
    exact present (text_eq_nil_iff.mp (List.append_right_eq_self.mp same))

theorem add_dots (dots : cleaned text = ['.', '.']) :
    add kind kind.segmentAllowed path text true = shorten path ++ [[]] := by
  have double : isDoubleDot (Percent.encode kind.segmentAllowed (cleaned text)) :=
    isDoubleDot_encode_iff.mpr dots
  unfold add
  rw [if_pos double, if_pos rfl]

theorem add_dot (dot : cleaned text = ['.']) :
    add kind kind.segmentAllowed path text true = path ++ [[]] := by
  have double : ¬ isDoubleDot (Percent.encode kind.segmentAllowed (cleaned text)) := by
    rw [isDoubleDot_encode_iff, dot]
    decide
  have single : isSingleDot (Percent.encode kind.segmentAllowed (cleaned text)) :=
    isSingleDot_encode_iff.mpr dot
  unfold add
  rw [if_neg double, if_pos single, if_pos rfl]

theorem normalSegment_eq_nil_iff : normalSegment kind path segment = [] ↔ segment = [] := by
  unfold normalSegment
  split
  · rename_i front
    simp only [isFrontDrive, Bool.and_eq_true] at front
    have drive := front.2
    match segment with
    | [letter, mark] => simp
  · exact Iff.rfl

/-- A drive that is parted from more of its segment stands in a text that is not dropped. -/
theorem cleaned_ne_nil_of_splitDrive? {drive behind : List Char}
    (split : splitDrive? kind path text = some (drive, behind)) :
    cleaned text ≠ [] ∧ drive ≠ [] := by
  unfold splitDrive? Text.spanUntil at split
  dsimp only at split
  split at split
  · rename_i parted
    obtain ⟨rfl, rfl⟩ := Prod.mk.inj (Option.some.inj split)
    refine ⟨fun empty => ?_, by simp⟩
    have behind : cleaned ((text.dropWhile fun c => !(c == ':')).drop 1) = [] := by
      rw [List.eq_nil_iff_forall_not_mem] at empty ⊢
      intro c member
      obtain ⟨inside, solid⟩ := List.mem_filter.mp member
      refine empty c (List.mem_filter.mpr ⟨?_, solid⟩)
      exact (List.dropWhile_sublist _).mem (List.mem_of_mem_drop inside)
    have present := parted.2.2
    rw [behind] at present
    cases present
  · cases split

/-- Any other text is a segment, or a drive and a segment, behind those of a path. -/
theorem add_text (kind : SchemeKind) (path : Path) (single : cleaned text ≠ ['.'])
    (double : cleaned text ≠ ['.', '.']) :
    ∃ more, add kind kind.segmentAllowed path text true = path ++ more ∧ more ≠ [] ∧
      Settled kind more ∧ (more = [[]] ↔ cleaned text = []) ∧
      (kind ≠ .file → more = [Percent.encode kind.segmentAllowed (cleaned text)]) := by
  have undoubled : ¬ isDoubleDot (Percent.encode kind.segmentAllowed (cleaned text)) :=
    fun dots => double (isDoubleDot_encode_iff.mp dots)
  have undotted : ¬ isSingleDot (Percent.encode kind.segmentAllowed (cleaned text)) :=
    fun dot => single (isSingleDot_encode_iff.mp dot)
  unfold add
  rw [if_neg undoubled, if_neg undotted]
  cases parted : splitDrive? kind path text with
  | some drive =>
    obtain ⟨drive, behind⟩ := drive
    obtain ⟨solid, present⟩ := cleaned_ne_nil_of_splitDrive? parted
    refine ⟨_, rfl, by simp, ?_, by simp [solid], fun other => ?_⟩
    · cases kind with
      | web | other => rfl
      | file =>
        match drive with
        | c :: first => rfl
    · unfold splitDrive? at parted
      simp [isFrontDrive, other] at parted
  | none =>
    refine ⟨_, rfl, by simp, ?_, ?_, fun other => ?_⟩
    · exact settled_single kind _
    · rw [List.cons.injEq, normalSegment_eq_nil_iff,
        Percent.encode_eq_nil_iff kind.segmentAllowed_percent]
      exact and_iff_left rfl
    · rw [normalSegment, if_neg]
      simp [isFrontDrive, other]

variable {name : String}

theorem push_dots (dots : name = "." ∨ name = "..") : push kind path name = path := if_pos dots

theorem push_of_ne (other : ¬ (name = "." ∨ name = "..")) :
    push kind path name =
      settle kind (add kind kind.segmentAllowed (kept path) name.toList true) :=
  if_neg other

theorem settled_push (settled : Settled kind path) : Settled kind (push kind path name) := by
  by_cases dots : name = "." ∨ name = ".."
  · rw [push_dots dots]
    exact settled
  · rw [push_of_ne dots]
    exact settled_settle kind _

/-- Names that put no segment behind those of a path: dots; nothing but dropped characters, with a
dot or without one, on the path `/`; and two dots with dropped characters, which take the last
segment away unless it is a drive. -/
def Drops (path : Path) (name : String) : Prop :=
  name = "." ∨ name = ".." ∨
  (path = [[]] ∧ (cleaned name.toList = [] ∨ cleaned name.toList = ['.'])) ∨
  (cleaned name.toList = ['.', '.'] ∧ path.getLast?.any (!startsWithDrive ·))

instance (path : Path) (name : String) : Decidable (Drops path name) :=
  inferInstanceAs (Decidable (_ ∨ _ ∨ _ ∨ _))

/-- Two dots with dropped characters: the path goes on behind itself only where it has nothing to
lose. -/
theorem parent_beyond_iff (settled : Settled kind path) :
    (settle kind (shorten (kept path) ++ [[]]) ≠ path ∧
      Continues path (settle kind (shorten (kept path) ++ [[]]))) ↔
      ¬ path.getLast?.any (!startsWithDrive ·) := by
  by_cases root : path = [[]]
  · subst root
    have same : settle kind (shorten (kept [[]]) ++ [[]]) = [[]] := settled_single kind []
    exact iff_of_false (fun beyond => beyond.1 same) (by decide)
  · cases ends : path.getLast? with
    | none =>
      obtain rfl := List.getLast?_eq_none_iff.mp ends
      refine iff_of_true ?_ (by simp)
      exact (beyond_append_iff settled (settled_single kind []) (by simp)).mpr (by simp)
    | some last =>
      by_cases drive : startsWithDrive last
      · have stays : shorten (kept path) = kept path := by
          rw [kept_of_ne root, shorten, ends]
          exact if_pos drive
        refine iff_of_true ?_ (by simp [drive])
        have beyond := beyond_append_iff settled (settled_single kind []) (by simp)
        rw [← stays] at beyond
        exact beyond.mpr (by simp [root])
      · have removed : shorten (kept path) = path.dropLast := by
          rw [kept_of_ne root, shorten, ends]
          exact if_neg drive
        refine iff_of_false ?_ (by simpa using drive)
        have some : 0 < path.length := List.length_pos_iff.mpr (by rintro rfl; cases ends)
        have short : (settle kind (shorten (kept path) ++ [[]])).length ≤ path.length := by
          apply Nat.le_trans (length_settle_le kind _)
          rw [removed, List.length_append, List.length_dropLast, List.length_singleton]
          omega
        exact fun beyond => not_continues_of_length root short beyond.2

/-- A name puts a segment behind those of a path exactly if it is none of those that drop. -/
theorem push_beyond_iff (settled : Settled kind path) (name : String) :
    (push kind path name ≠ path ∧ Continues path (push kind path name)) ↔ ¬ Drops path name := by
  by_cases dots : name = "." ∨ name = ".."
  · rw [push_dots dots]
    refine iff_of_false (fun beyond => beyond.1 rfl) (fun adds => adds ?_)
    exact dots.imp_right .inl
  rw [push_of_ne dots]
  have undotted : Drops path name ↔
      (path = [[]] ∧ (cleaned name.toList = [] ∨ cleaned name.toList = ['.'])) ∨
      (cleaned name.toList = ['.', '.'] ∧ path.getLast?.any (!startsWithDrive ·)) := by
    unfold Drops
    rw [← or_assoc]
    exact or_iff_right dots
  rw [undotted]
  by_cases double : cleaned name.toList = ['.', '.']
  · rw [add_dots double, parent_beyond_iff settled, double]
    simp
  by_cases single : cleaned name.toList = ['.']
  · rw [add_dot single, beyond_append_iff settled (settled_single kind []) (by simp), single]
    simp
  · obtain ⟨more, added, present, settled', empty, -⟩ := add_text kind (kept path) single double
    rw [added, beyond_append_iff settled settled' present, empty]
    simp [single, double]

/-- A name of its own: not empty, no dots, and without characters that are dropped. -/
structure IsName (name : String) : Prop where
  present : name ≠ ""
  single : name ≠ "."
  double : name ≠ ".."
  solid : ∀ c ∈ name.toList, isDropped c = false

theorem IsName.cleaned_eq (named : IsName name) : cleaned name.toList = name.toList :=
  List.filter_eq_self.mpr fun c member => by simp [named.solid c member]

/-- Under a scheme of the web such a name is one segment more, the encoded name. -/
theorem push_name (named : IsName name) :
    push .web path name = kept path ++ [Percent.encode Percent.inSpecialSegment name.toList] := by
  have single : cleaned name.toList ≠ ['.'] := by
    rw [named.cleaned_eq]
    exact fun same => named.single (String.toList_inj.mp same)
  have double : cleaned name.toList ≠ ['.', '.'] := by
    rw [named.cleaned_eq]
    exact fun same => named.double (String.toList_inj.mp same)
  obtain ⟨more, added, -, -, -, plain⟩ := add_text .web (kept path) single double
  have dots : ¬ (name = "." ∨ name = "..") := not_or.mpr ⟨named.single, named.double⟩
  rw [push_of_ne dots, added, plain (by decide), named.cleaned_eq]
  rfl

end Path
end TableClient.Url
