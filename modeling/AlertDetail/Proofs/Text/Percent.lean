import AlertDetail.Proofs.Text.Bytes
import Mathlib.Data.List.Forall2

/-!
# Reading percent encoding

A text in which bytes are written out is read as the bytes, whichever bytes are written out and
whichever case the digits have. All that counts is that percent signs are written out, and what is
not ASCII: then nothing else in the text is taken for an escape. Texts can be put together before
they are read, since no escape goes over the seam.
-/

namespace AlertDetail.Text.Percent

variable {text text' : List Char} {bytes bytes' rest : List UInt8} {byte high low : UInt8}

/-- How bytes are written where some are reserved: each of those as a percent sign and two digits,
in either case, and each other one as the character with its code. -/
inductive Spelled (reserved : UInt8 → Prop) : List UInt8 → List Char → Prop
  | nil : Spelled reserved [] []
  | kept {byte : UInt8} {bytes : List UInt8} {text : List Char} (hkept : ¬ reserved byte)
    (hrest : Spelled reserved bytes text) :
    Spelled reserved (byte :: bytes) (Char.ofNat byte.toNat :: text)
  | escaped {byte high low : UInt8} {bytes : List UInt8} {text : List Char}
    (hreserved : reserved byte) (hhigh : digit? high = some (byte / 16))
    (hlow : digit? low = some (byte % 16)) (hrest : Spelled reserved bytes text) :
    Spelled reserved (byte :: bytes)
      ('%' :: Char.ofNat high.toNat :: Char.ofNat low.toNat :: text)

/-- Enough bytes are reserved: the percent sign and all that are not ASCII. -/
structure Suffices (reserved : UInt8 → Prop) : Prop where
  /-- The percent sign is reserved. -/
  percent : reserved 0x25
  /-- So is every byte that is not ASCII. -/
  wide : ∀ byte, 0x80 ≤ byte → reserved byte

/-- Whether a byte is a letter, a digit or one of `-._~`, which mean nothing else anywhere in an
address. -/
def isUnreserved (byte : UInt8) : Bool :=
  let c := Char.ofNat byte.toNat
  byte < 0x80 && (c.isAlphanum || c = '-' || c = '.' || c = '_' || c = '~')

/-- It is enough to reserve all other bytes. -/
theorem suffices_of_unreserved {reserved : UInt8 → Prop}
    (h : ∀ byte, isUnreserved byte = false → reserved byte) : Suffices reserved where
  percent := h _ (by decide)
  wide := fun byte hwide => h byte <| Bool.eq_false_iff.2 fun hfree =>
    UInt8.not_le.2 (of_decide_eq_true (Bool.and_eq_true_iff.1 hfree).1) hwide

/-- A byte that is no percent sign is read as it is. -/
theorem decodeBytes_cons_of_ne (h : byte ≠ 0x25) (rest : List UInt8) :
    decodeBytes (byte :: rest) = byte :: decodeBytes rest := by
  match rest with
  | [] => rfl
  | [_] => rfl
  | _ :: _ :: _ => rw [decodeBytes, if_neg h]

/-- A percent sign with two digits is read as the byte that they write. -/
theorem decodeBytes_escaped (hhigh : digit? high = some (byte / 16))
    (hlow : digit? low = some (byte % 16)) (rest : List UInt8) :
    decodeBytes (0x25 :: high :: low :: rest) = byte :: decodeBytes rest := by
  have hbyte : byte / 16 * 16 + byte % 16 = byte := by
    apply UInt8.toNat_inj.1
    rw [UInt8.toNat_add, UInt8.toNat_mul, UInt8.toNat_div, UInt8.toNat_mod]
    have hsize := byte.toNat_lt
    simp only [UInt8.reduceToNat]
    omega
  rw [decodeBytes, if_pos rfl, hhigh, hlow]
  simp only [hbyte]

/-- Digits are ASCII. -/
theorem lt_of_digit? (h : digit? byte = some low) : byte.toNat < 128 := by
  unfold digit? at h
  simp only [UInt8.le_iff_toNat_le, UInt8.reduceToNat] at h
  split at h
  · omega
  · split at h
    · omega
    · split at h
      · omega
      · cases h

/-- A text writes bytes if it is read as them, whatever comes after it. -/
def Writes (text : List Char) (bytes : List UInt8) : Prop :=
  ∀ rest, decodeBytes (Utf8.encode text ++ rest) = bytes ++ decodeBytes rest

/-- Two texts in a row write the bytes of both. -/
theorem Writes.append (h : Writes text bytes) (h' : Writes text' bytes') :
    Writes (text ++ text') (bytes ++ bytes') := fun rest => by
  rw [Utf8.encode_append, List.append_assoc, h, h', List.append_assoc]

/-- A text that writes the bytes of another one is decoded to that. -/
theorem Writes.decode? (h : Writes text' (Utf8.encode text)) : decode? text' = some text := by
  have hbytes : decodeBytes (Utf8.encode text') = Utf8.encode text := by
    have hall := h []
    rwa [List.append_nil, decodeBytes, List.append_nil] at hall
  rw [Percent.decode?, hbytes, Utf8.decode?_encode]

/-- No byte of a character is a percent sign but that of the percent sign itself. -/
theorem ne_percent_of_mem {c : Char} (hc : c ≠ '%') (hmem : byte ∈ String.utf8EncodeChar c) :
    byte ≠ 0x25 := by
  rintro rfl
  by_cases hascii : c.toNat < 128
  · rw [Utf8.encodeChar_of_lt hascii, List.mem_singleton] at hmem
    have hcode : c.toNat = 0x25 := by
      rw [← UInt8.toNat_ofNat_of_lt' (Nat.lt_trans hascii (by decide)), ← hmem]
      rfl
    exact hc (Char.ofNat_toNat c ▸ hcode ▸ rfl)
  · exact absurd (Utf8.le_of_mem_encodeChar (Nat.not_lt.1 hascii) hmem) (by decide)

/-- A text without percent signs writes its own bytes. -/
theorem writes_encode (h : '%' ∉ text) : Writes text (Utf8.encode text) := by
  have hall : ∀ byte ∈ Utf8.encode text, byte ≠ 0x25 := by
    intro byte hbyte
    obtain ⟨c, hc, hmem⟩ := List.mem_flatMap.1 hbyte
    exact ne_percent_of_mem (fun hpercent => h (hpercent ▸ hc)) hmem
  intro rest
  generalize Utf8.encode text = bytes at hall ⊢
  induction bytes with
  | nil => rfl
  | cons byte bytes ih =>
    obtain ⟨hbyte, hbytes⟩ := List.forall_mem_cons.1 hall
    rw [List.cons_append, decodeBytes_cons_of_ne hbyte, ih hbytes, List.cons_append]

/-- What is spelled writes its bytes. -/
theorem Spelled.writes {reserved : UInt8 → Prop} (hreserved : Suffices reserved)
    (h : Spelled reserved bytes text) : Writes text bytes := by
  induction h with
  | nil => exact fun rest => rfl
  | @kept byte bytes text hkept _ ih =>
    intro rest
    have hpercent : byte ≠ 0x25 := fun h => hkept (h ▸ hreserved.percent)
    have hascii : byte.toNat < 128 :=
      UInt8.lt_iff_toNat_lt.1 (UInt8.not_le.1 fun h => hkept (hreserved.wide byte h))
    rw [Utf8.encode_ofNat hascii, List.cons_append, decodeBytes_cons_of_ne hpercent, ih,
      List.cons_append]
  | @escaped byte high low bytes text _ hhigh hlow _ ih =>
    intro rest
    have hpercent (text : List Char) : Utf8.encode ('%' :: text) = 0x25 :: Utf8.encode text :=
      @Utf8.encode_ofNat 0x25 (by decide) text
    rw [hpercent, Utf8.encode_ofNat (lt_of_digit? hhigh), Utf8.encode_ofNat (lt_of_digit? hlow),
      List.cons_append, List.cons_append, List.cons_append, decodeBytes_escaped hhigh hlow, ih,
      List.cons_append]

/-- Texts with a separator between them write what they write each, with the separator between. -/
theorem writes_intercalate {separator : Char} (hseparator : separator ≠ '%')
    {texts texts' : List (List Char)}
    (h : List.Forall₂ (fun text text' => Writes text' (Utf8.encode text)) texts texts') :
    Writes ([separator].intercalate texts') (Utf8.encode ([separator].intercalate texts)) := by
  have hsign : Writes [separator] (Utf8.encode [separator]) :=
    writes_encode fun hmem => hseparator (List.mem_singleton.1 hmem).symm
  induction h with
  | nil => exact fun rest => rfl
  | @cons text text' texts texts' hfirst hrest ih =>
    cases hrest with
    | nil => rwa [List.intercalate_singleton, List.intercalate_singleton]
    | cons hnext hothers =>
      rw [List.intercalate_cons_cons, List.intercalate_cons_cons, Utf8.encode_append,
        Utf8.encode_append]
      exact (hfirst.append hsign).append ih

/-! ## The writer -/

variable {keep : UInt8 → Bool} {c : Char}

/-- The digits that the writer uses. -/
def capitalDigits : List Char := "0123456789ABCDEF".toList

/-- They are the characters of bytes that are read as the numbers they stand for. -/
theorem exists_digit (hbyte : byte < 16) : ∃ digit : UInt8,
    digitChar byte = Char.ofNat digit.toNat ∧ digit? digit = some byte := by
  have hall : ∀ n < 16, ∃ digit ∈ capitalDigits.map fun c => UInt8.ofNat c.toNat,
      digitChar (UInt8.ofNat n) = Char.ofNat digit.toNat ∧
        digit? digit = some (UInt8.ofNat n) := by decide
  obtain ⟨digit, -, hdigit⟩ := hall byte.toNat (UInt8.lt_iff_toNat_lt.1 hbyte)
  rw [UInt8.ofNat_toNat] at hdigit
  exact ⟨digit, hdigit⟩

theorem digitChar_mem (hbyte : byte < 16) : digitChar byte ∈ capitalDigits := by
  have hall : ∀ n < 16, digitChar (UInt8.ofNat n) ∈ capitalDigits := by decide
  have hdigit := hall byte.toNat (UInt8.lt_iff_toNat_lt.1 hbyte)
  rwa [UInt8.ofNat_toNat] at hdigit

theorem div_lt (byte : UInt8) : byte / 16 < 16 := by
  have hsize := byte.toNat_lt
  rw [UInt8.lt_iff_toNat_lt, UInt8.toNat_div]
  simp only [UInt8.reduceToNat]
  omega

theorem mod_lt (byte : UInt8) : byte % 16 < 16 := by
  rw [UInt8.lt_iff_toNat_lt, UInt8.toNat_mod]
  exact Nat.mod_lt _ (by decide)

/-- The writer spells its bytes. -/
theorem spelled_encode (keep : UInt8 → Bool) (text : List Char) :
    Spelled (keep · = false) (Utf8.encode text) (encode keep text) := by
  unfold encode
  generalize Utf8.encode text = bytes
  induction bytes with
  | nil => exact .nil
  | cons byte bytes ih =>
    rw [List.flatMap_cons]
    by_cases hkeep : keep byte = true
    · rw [if_pos hkeep]
      exact .kept (by simp [hkeep]) ih
    · rw [if_neg hkeep]
      obtain ⟨high, hhigh, hhigh'⟩ := exists_digit (div_lt byte)
      obtain ⟨low, hlow, hlow'⟩ := exists_digit (mod_lt byte)
      rw [escaped, hhigh, hlow]
      exact .escaped (Bool.eq_false_iff.2 hkeep) hhigh' hlow' ih

/-- What is written is read as the text, if enough bytes are written out. -/
theorem decode?_encode (hkeep : Suffices (keep · = false)) (text : List Char) :
    decode? (encode keep text) = some text :=
  ((spelled_encode keep text).writes hkeep).decode?

/-- A byte that is written out shows as a percent sign and digits. -/
theorem of_mem_escaped (h : c ∈ escaped byte) : c = '%' ∨ c ∈ capitalDigits := by
  simp only [escaped, List.mem_cons, List.not_mem_nil, or_false] at h
  rcases h with rfl | rfl | rfl
  · exact .inl rfl
  · exact .inr (digitChar_mem (div_lt byte))
  · exact .inr (digitChar_mem (mod_lt byte))

/-- A character that is not kept shows nowhere in what is written, unless escapes are made
of it. -/
theorem notMem_encode (hkeep : keep (UInt8.ofNat c.toNat) = false) (hpercent : c ≠ '%')
    (hdigit : c ∉ capitalDigits) (text : List Char) : c ∉ encode keep text := by
  intro hmem
  obtain ⟨byte, -, hbyte⟩ := List.mem_flatMap.1 hmem
  split at hbyte
  · next hkept =>
    have hsame := Utf8.eq_of_ofNat_eq (List.mem_singleton.1 hbyte).symm
    rw [← hsame, hkept] at hkeep
    cases hkeep
  · exact (of_mem_escaped hbyte).elim hpercent hdigit

/-- A character of ASCII shows only where it is in the text, unless escapes are made of it. -/
theorem mem_of_mem_encode (hascii : c.toNat < 128) (hpercent : c ≠ '%')
    (hdigit : c ∉ capitalDigits) (h : c ∈ encode keep text) : c ∈ text := by
  obtain ⟨byte, hmem, hbyte⟩ := List.mem_flatMap.1 h
  split at hbyte
  · have hsame := Utf8.eq_of_ofNat_eq (List.mem_singleton.1 hbyte).symm
    have hcode : byte.toNat = c.toNat := by
      rw [hsame, UInt8.toNat_ofNat_of_lt' (Nat.lt_trans hascii (by decide))]
    obtain ⟨d, hd, hdbyte⟩ := List.mem_flatMap.1 hmem
    by_cases hd' : d.toNat < 128
    · rw [Utf8.encodeChar_of_lt hd', List.mem_singleton] at hdbyte
      rw [hdbyte, UInt8.toNat_ofNat_of_lt' (Nat.lt_trans hd' (by decide))] at hcode
      exact Char.toNat_inj.1 hcode ▸ hd
    · have hwide := UInt8.le_iff_toNat_le.1 (Utf8.le_of_mem_encodeChar (Nat.not_lt.1 hd') hdbyte)
      rw [hcode] at hwide
      exact absurd hascii (Nat.not_lt.2 hwide)
  · exact ((of_mem_escaped hbyte).elim hpercent hdigit).elim

end AlertDetail.Text.Percent
