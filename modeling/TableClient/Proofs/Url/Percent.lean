import TableClient.Url.Percent
/-! What percent-encoding keeps. Wherever the percent sign itself is encoded, decoding gives the
bytes of the text back, so different texts have different encodings; and an encoding holds nothing
but allowed ASCII characters and the groups it has written. -/
namespace TableClient.Url.Percent

variable {allowed : Allowed} {text other : List Char}

theorem hexValue?_hexDigit : ∀ n < 16, Text.hexValue? (hexDigit n) = some n := by decide

theorem groupByte?_hexDigit (byte : UInt8) :
    groupByte? (hexDigit (byte.toNat / 16)) (hexDigit (byte.toNat % 16)) = some byte := by
  have size : byte.toNat < 256 := byte.toNat_lt_size
  have whole : 16 * (byte.toNat / 16) + byte.toNat % 16 = byte.toNat := Nat.div_add_mod _ _
  rw [groupByte?, hexValue?_hexDigit _ (by omega), hexValue?_hexDigit _ (by omega)]
  dsimp only [bind, Option.bind, pure]
  rw [whole, UInt8.ofNat_toNat]

theorem decode_encodeByte (byte : UInt8) (rest : List Char) :
    decode (encodeByte byte ++ rest) = byte :: decode rest := by
  rw [encodeByte, List.cons_append, List.cons_append, List.cons_append, List.nil_append, decode,
    groupByte?_hexDigit]

theorem decode_encodeBytes (bytes : List UInt8) (rest : List Char) :
    decode (bytes.flatMap encodeByte ++ rest) = bytes ++ decode rest := by
  induction bytes with
  | nil => rfl
  | cons byte bytes ih =>
    rw [List.flatMap_cons, List.append_assoc, decode_encodeByte, ih, List.cons_append]

theorem decode_cons {c : Char} (plain : c ≠ '%') (rest : List Char) :
    decode (c :: rest) = String.utf8EncodeChar c ++ decode rest := by
  rw [decode]
  intro high low behind first
  exact absurd first plain

theorem decode_encodeChar (percent : allowed '%' = false) (c : Char) (rest : List Char) :
    decode (encodeChar allowed c ++ rest) = String.utf8EncodeChar c ++ decode rest := by
  unfold encodeChar
  split
  · rename_i shown
    have plain : c ≠ '%' := by
      rintro rfl
      rw [percent] at shown
      exact absurd shown.2 (by decide)
    exact decode_cons plain rest
  · exact decode_encodeBytes _ rest

/-- Decoding undoes any encoding that encodes the percent sign. -/
theorem decode_encode (percent : allowed '%' = false) (text : List Char) :
    decode (encode allowed text) = text.flatMap String.utf8EncodeChar := by
  induction text with
  | nil => rfl
  | cons c rest ih =>
    rw [encode, List.flatMap_cons, decode_encodeChar percent, List.flatMap_cons]
    exact congrArg _ ih

theorem utf8_injective (same : text.flatMap String.utf8EncodeChar =
    other.flatMap String.utf8EncodeChar) : text = other := by
  apply String.ofList_injective
  rw [← String.toByteArray_inj, String.toByteArray_ofList, String.toByteArray_ofList]
  exact congrArg List.toByteArray same

theorem utf8_toList (name : String) :
    name.toList.flatMap String.utf8EncodeChar = name.toUTF8.data.toList := by
  have bytes : name.toList.utf8Encode = name.toByteArray := String.utf8Encode_toList
  rw [String.toUTF8_eq_toByteArray, ← bytes, List.utf8Encode, List.toList_data_toByteArray]

theorem encode_injective (percent : allowed '%' = false) : Function.Injective (encode allowed) := by
  intro text other same
  apply utf8_injective
  rw [← decode_encode percent, same, decode_encode percent]

theorem encode_eq_nil_iff (percent : allowed '%' = false) : encode allowed text = [] ↔ text = [] :=
  ⟨fun empty => encode_injective percent empty, fun empty => by rw [empty]; rfl⟩

theorem hexDigit_mem : ∀ n < 16, hexDigit n ∈ "0123456789ABCDEF".toList := by decide

/-- An encoding holds allowed characters and groups. -/
theorem mem_encode {c : Char} (member : c ∈ encode allowed text) :
    (c.toNat < 0x80 ∧ allowed c) ∨ c = '%' ∨ c ∈ "0123456789ABCDEF".toList := by
  obtain ⟨source, -, shown⟩ := List.mem_flatMap.mp member
  unfold encodeChar at shown
  split at shown
  · rename_i plain
    rw [List.mem_singleton.mp shown]
    exact .inl plain
  · obtain ⟨byte, -, digit⟩ := List.mem_flatMap.mp shown
    have size : byte.toNat < 256 := byte.toNat_lt_size
    simp only [encodeByte, List.mem_cons, List.not_mem_nil, or_false] at digit
    rcases digit with rfl | rfl | rfl
    · exact .inr (.inl rfl)
    · exact .inr (.inr (hexDigit_mem _ (by omega)))
    · exact .inr (.inr (hexDigit_mem _ (by omega)))

end TableClient.Url.Percent
