import AlertDetail.Text.Percent

/-!
# Reading what was written as bytes

The bytes of a text are read as that text. A character has one to four bytes, of which the first
tells how many follow; each form is read on its own, whatever comes after it.
-/

namespace AlertDetail.Text.Utf8

variable {c : Char} {rest : List UInt8} {first second third low : Nat}

/-- A code point that is large enough is read as its character. -/
theorem charFrom?_toNat {least : Nat} (h : least ≤ c.toNat) : charFrom? least c.toNat = some c := by
  have hvalid : c.toNat.isValidChar := c.valid
  rw [charFrom?, if_pos ⟨h, hvalid⟩, Char.ofNat_toNat]

/-- The bits of a continuation byte are read from it. -/
theorem continuation?_ofNat (h : low < 64) :
    continuation? (UInt8.ofNat (low + 128)) = some low := by
  have hbyte : (UInt8.ofNat (low + 128)).toNat = low + 128 :=
    UInt8.toNat_ofNat_of_lt' (Nat.lt_of_lt_of_le (Nat.add_lt_add_right h 128) (by decide))
  simp only [continuation?, UInt8.le_iff_toNat_le, hbyte, UInt8.reduceToNat]
  rw [if_pos (by omega), Nat.add_sub_cancel]

/-- One byte. -/
theorem decode?_one (h : c.toNat < 128) :
    decode? (UInt8.ofNat c.toNat :: rest) = (c :: ·) <$> decode? rest := by
  have hbyte : (UInt8.ofNat c.toNat).toNat = c.toNat :=
    UInt8.toNat_ofNat_of_lt' (Nat.lt_trans h (by decide))
  rw [decode?.eq_def]
  simp only [UInt8.lt_iff_toNat_lt, hbyte, UInt8.reduceToNat]
  rw [if_pos h, Char.ofNat_toNat]

/-- Two bytes. -/
theorem decode?_two (hfirst : 2 ≤ first ∧ first < 32) (hlow : low < 64)
    (hc : c.toNat = first * 64 + low) :
    decode? (UInt8.ofNat (first + 192) :: UInt8.ofNat (low + 128) :: rest) =
      (c :: ·) <$> decode? rest := by
  have hbyte : (UInt8.ofNat (first + 192)).toNat = first + 192 :=
    UInt8.toNat_ofNat_of_lt' (Nat.lt_of_lt_of_le (Nat.add_lt_add_right hfirst.2 192) (by decide))
  have hchar : charFrom? 0x80 (first * 64 + low) = some c := hc ▸ charFrom?_toNat (by omega)
  rw [decode?.eq_def]
  simp only [UInt8.lt_iff_toNat_lt, UInt8.le_iff_toNat_le, hbyte, UInt8.reduceToNat]
  rw [if_neg (by omega), if_pos (by omega), continuation?_ofNat hlow]
  simp only [bind, Option.bind_some, Nat.add_sub_cancel, hchar]

/-- Three bytes. -/
theorem decode?_three (hfirst : first < 16) (hsecond : second < 64) (hlow : low < 64)
    (hc : c.toNat = (first * 64 + second) * 64 + low) (hleast : 0x800 ≤ c.toNat) :
    decode? (UInt8.ofNat (first + 224) :: UInt8.ofNat (second + 128) :: UInt8.ofNat (low + 128) ::
        rest) = (c :: ·) <$> decode? rest := by
  have hbyte : (UInt8.ofNat (first + 224)).toNat = first + 224 :=
    UInt8.toNat_ofNat_of_lt' (Nat.lt_of_lt_of_le (Nat.add_lt_add_right hfirst 224) (by decide))
  have hchar : charFrom? 0x800 ((first * 64 + second) * 64 + low) = some c :=
    hc ▸ charFrom?_toNat hleast
  rw [decode?.eq_def]
  simp only [UInt8.lt_iff_toNat_lt, UInt8.le_iff_toNat_le, hbyte, UInt8.reduceToNat]
  rw [if_neg (by omega), if_neg (by omega), if_pos (by omega), continuation?_ofNat hsecond,
    continuation?_ofNat hlow]
  simp only [bind, Option.bind_some, Nat.add_sub_cancel, hchar]

/-- Four bytes. -/
theorem decode?_four (hfirst : first < 5) (hsecond : second < 64) (hthird : third < 64)
    (hlow : low < 64) (hc : c.toNat = ((first * 64 + second) * 64 + third) * 64 + low)
    (hleast : 0x10000 ≤ c.toNat) :
    decode? (UInt8.ofNat (first + 240) :: UInt8.ofNat (second + 128) :: UInt8.ofNat (third + 128) ::
        UInt8.ofNat (low + 128) :: rest) = (c :: ·) <$> decode? rest := by
  have hbyte : (UInt8.ofNat (first + 240)).toNat = first + 240 :=
    UInt8.toNat_ofNat_of_lt' (Nat.lt_of_lt_of_le (Nat.add_lt_add_right hfirst 240) (by decide))
  have hchar : charFrom? 0x10000 (((first * 64 + second) * 64 + third) * 64 + low) = some c :=
    hc ▸ charFrom?_toNat hleast
  rw [decode?.eq_def]
  simp only [UInt8.lt_iff_toNat_lt, UInt8.le_iff_toNat_le, hbyte, UInt8.reduceToNat]
  rw [if_neg (by omega), if_neg (by omega), if_neg (by omega), if_pos (by omega),
    continuation?_ofNat hsecond, continuation?_ofNat hthird, continuation?_ofNat hlow]
  simp only [bind, Option.bind_some, Nat.add_sub_cancel, hchar]

/-- Code points end below seventeen planes. -/
theorem toNat_lt (c : Char) : c.toNat < 0x110000 := by
  rcases c.valid with hlow | ⟨-, hhigh⟩
  · exact Nat.lt_trans hlow (by decide)
  · exact hhigh

/-- The bytes of a character are read as that character. -/
theorem decode?_encodeChar (c : Char) (rest : List UInt8) :
    decode? (String.utf8EncodeChar c ++ rest) = (c :: ·) <$> decode? rest := by
  have hlast := toNat_lt c
  have hcode : c.val.toNat = c.toNat := rfl
  rw [String.utf8EncodeChar.eq_def, hcode]
  -- one case for each number of bytes
  by_cases hone : c.toNat ≤ 127
  · rw [if_pos hone]
    exact decode?_one (Nat.lt_succ_of_le hone)
  rw [if_neg hone]
  by_cases htwo : c.toNat ≤ 2047
  · rw [if_pos htwo]
    exact decode?_two (by omega) (by omega) (by omega)
  rw [if_neg htwo]
  by_cases hthree : c.toNat ≤ 65535
  · rw [if_pos hthree]
    exact decode?_three (by omega) (by omega) (by omega) (by omega) (by omega)
  rw [if_neg hthree]
  exact decode?_four (by omega) (by omega) (by omega) (by omega) (by omega) (by omega)

/-- The bytes of a text are read as that text. -/
theorem decode?_encode (text : List Char) : decode? (encode text) = some text := by
  induction text with
  | nil => rw [encode, List.flatMap_nil, decode?]
  | cons c rest ih =>
    rw [encode, List.flatMap_cons, decode?_encodeChar]
    exact congrArg (Option.map (c :: ·)) ih

theorem encode_append (text text' : List Char) :
    encode (text ++ text') = encode text ++ encode text' := List.flatMap_append

/-- A character of ASCII is one byte. -/
theorem encodeChar_of_lt (h : c.toNat < 128) :
    String.utf8EncodeChar c = [UInt8.ofNat c.toNat] := by
  have hcode : c.val.toNat = c.toNat := rfl
  rw [String.utf8EncodeChar.eq_def, hcode, if_pos (Nat.le_of_lt_succ h)]

/-- Any other one has no byte that is ASCII. -/
theorem le_of_mem_encodeChar {byte : UInt8} (h : 128 ≤ c.toNat)
    (hmem : byte ∈ String.utf8EncodeChar c) : 0x80 ≤ byte := by
  have hwide {n : Nat} (hleast : 128 ≤ n) (hlast : n < 256) : 0x80 ≤ UInt8.ofNat n := by
    rw [UInt8.le_iff_toNat_le, UInt8.toNat_ofNat_of_lt' hlast]
    exact hleast
  have hcode : c.val.toNat = c.toNat := rfl
  rw [String.utf8EncodeChar.eq_def, hcode, if_neg (Nat.not_le.2 h)] at hmem
  split at hmem
  · simp only [List.mem_cons, List.not_mem_nil, or_false] at hmem
    rcases hmem with rfl | rfl <;> exact hwide (by omega) (by omega)
  split at hmem
  · simp only [List.mem_cons, List.not_mem_nil, or_false] at hmem
    rcases hmem with rfl | rfl | rfl <;> exact hwide (by omega) (by omega)
  · simp only [List.mem_cons, List.not_mem_nil, or_false] at hmem
    rcases hmem with rfl | rfl | rfl | rfl <;> exact hwide (by omega) (by omega)

/-- The code of a byte is that of a character. -/
theorem toNat_ofNat_byte (byte : UInt8) : (Char.ofNat byte.toNat).toNat = byte.toNat := by
  have hvalid : byte.toNat.isValidChar := .inl (Nat.lt_trans byte.toNat_lt (by decide))
  rw [Char.ofNat, dif_pos hvalid]
  rfl

/-- The character tells the byte. -/
theorem eq_of_ofNat_eq {byte : UInt8} (h : Char.ofNat byte.toNat = c) :
    byte = UInt8.ofNat c.toNat := by
  rw [← h, toNat_ofNat_byte, UInt8.ofNat_toNat]

/-- The character with the code of an ASCII byte is written as that byte. -/
theorem encode_ofNat {byte : UInt8} (h : byte.toNat < 128) (text : List Char) :
    encode (Char.ofNat byte.toNat :: text) = byte :: encode text := by
  have hcode := toNat_ofNat_byte byte
  rw [encode, List.flatMap_cons, encodeChar_of_lt (by rwa [hcode]), hcode, UInt8.ofNat_toNat]
  rfl

end AlertDetail.Text.Utf8
