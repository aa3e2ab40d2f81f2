import AlertDetail.Proofs.Text.Percent
import AlertDetail.Text.Form

/-!
# Reading forms

The pairs of a form are read as they were written, in their order, whatever their texts are. No text
shows a character that separates pairs, keys and values, or that ends a query. A space is written as
a plus sign, so plus signs are turned into spaces before escapes are read; a plus sign of a text is
an escape itself.
-/

namespace AlertDetail.Text.Form

variable {c : Char} {byte : UInt8}

/-- Bytes that a form writes out as escapes are all but the plain ones and the space. -/
def keeps (byte : UInt8) : Bool := byte = 0x20 || isPlain byte

/-- Plain bytes are ASCII. -/
theorem lt_of_isPlain (h : isPlain byte = true) : byte < 0x80 :=
  of_decide_eq_true (Bool.and_eq_true_iff.1 h).1

/-- A form writes out enough bytes. -/
theorem suffices_keeps : Percent.Suffices (keeps · = false) where
  percent := by decide
  wide := fun byte hwide => by
    have hplain : isPlain byte = false :=
      Bool.eq_false_iff.2 fun h => UInt8.not_le.2 (lt_of_isPlain h) hwide
    have hspace : byte ≠ 0x20 := by
      rintro rfl
      exact absurd hwide (by decide)
    simp [keeps, hplain, hspace]

/-- Nothing changes where there is no plus sign. -/
theorem map_space_of_notMem {text : List Char} (h : '+' ∉ text) :
    text.map (fun c => if c = '+' then ' ' else c) = text := by
  refine (List.map_congr_left fun c hc => if_neg ?_).trans (List.map_id text)
  rintro rfl
  exact h hc

/-- With spaces for plus signs, a text is percent-encoded. -/
theorem map_space_encodeText (text : List Char) :
    (encodeText text).map (fun c => if c = '+' then ' ' else c) = Percent.encode keeps text := by
  rw [encodeText, Percent.encode, List.map_flatMap]
  congr 1
  funext byte
  by_cases hspace : byte = 0x20
  · subst hspace
    rfl
  rw [if_neg hspace]
  by_cases hplain : isPlain byte = true
  · have hkeeps : keeps byte = true := by simp [keeps, hplain]
    rw [if_pos hplain, if_pos hkeeps]
    refine map_space_of_notMem fun hplus => ?_
    have hbyte := Utf8.eq_of_ofNat_eq (List.mem_singleton.1 hplus).symm
    rw [hbyte] at hplain
    exact absurd hplain (by decide)
  · have hkeeps : ¬ keeps byte = true := by simp [keeps, hplain, hspace]
    rw [if_neg hplain, if_neg hkeeps]
    exact map_space_of_notMem fun hplus => (Percent.of_mem_escaped hplus).elim
      (absurd · (by decide)) (absurd · (by decide))

/-- A text is read as it was written. -/
theorem decodeText?_encodeText (text : String) :
    decodeText? (encodeText text.toList) = some text := by
  rw [decodeText?, map_space_encodeText, Percent.decode?_encode suffices_keeps]
  exact congrArg some String.ofList_toList

/-- Whether a character shows in no text of a form: it is not plain and begins no escape, and no
space is written as it. -/
def isForeign (c : Char) : Bool := !isPlain (UInt8.ofNat c.toNat) && c ≠ '+' && c ≠ '%'

/-- Escapes are made of digits, which are plain. -/
theorem isForeign_eq_false_of_digit (h : c ∈ Percent.capitalDigits) : isForeign c = false := by
  have hall : Percent.capitalDigits.all (!isForeign ·) = true := by decide
  simpa using List.all_eq_true.1 hall c h

theorem notMem_encodeText (h : isForeign c = true) (text : List Char) : c ∉ encodeText text := by
  intro hmem
  obtain ⟨byte, -, hbyte⟩ := List.mem_flatMap.1 hmem
  split at hbyte
  · rw [List.mem_singleton.1 hbyte] at h
    exact absurd h (by decide)
  split at hbyte
  · next hplain =>
    rw [Utf8.eq_of_ofNat_eq (List.mem_singleton.1 hbyte).symm] at hplain
    simp [isForeign, hplain] at h
  · rcases Percent.of_mem_escaped hbyte with rfl | hdigit
    · exact absurd h (by decide)
    · rw [isForeign_eq_false_of_digit hdigit] at h
      cases h

/-- A pair is read as it was written. -/
theorem decodePair?_encodePair (pair : String × String) :
    decodePair? (encodePair pair) = some pair := by
  have hkey : ∀ c ∈ encodeText pair.1.toList, decide (c ≠ '=') = true := by
    intro c hc
    refine decide_eq_true fun hequals => ?_
    exact notMem_encodeText (by decide) _ (hequals ▸ hc)
  have hfirst : (encodePair pair).takeWhile (· ≠ '=') = encodeText pair.1.toList := by
    rw [encodePair, List.takeWhile_append_of_pos hkey, List.takeWhile_cons_of_neg (by simp),
      List.append_nil]
  have hsecond : ((encodePair pair).dropWhile (· ≠ '=')).drop 1 = encodeText pair.2.toList := by
    rw [encodePair, List.dropWhile_append_of_pos hkey, List.dropWhile_cons_of_neg (by simp)]
    rfl
  rw [decodePair?, hfirst, hsecond, decodeText?_encodeText, decodeText?_encodeText]
  rfl

/-- A foreign character shows in no pair, but for the sign between key and value. -/
theorem notMem_encodePair (h : isForeign c = true) (hequals : c ≠ '=') (pair : String × String) :
    c ∉ encodePair pair := by
  rw [encodePair, List.mem_append, List.mem_cons]
  rintro (hkey | hsign | hvalue)
  · exact notMem_encodeText h _ hkey
  · exact hequals hsign
  · exact notMem_encodeText h _ hvalue

/-- Pairs are written with an ampersand between them. -/
theorem encode_eq_intercalate (pairs : List (String × String)) :
    encode pairs = ['&'].intercalate (pairs.map encodePair) := by
  fun_induction encode pairs with
  | case1 => rfl
  | case2 pair => simp
  | case3 pair rest hrest ih =>
    obtain ⟨next, others, rfl⟩ := List.exists_cons_of_ne_nil hrest
    rw [ih, List.map_cons, List.map_cons, List.map_cons, List.intercalate_cons_cons,
      List.append_assoc]
    rfl

/-- The pairs of a form are read as they were written. -/
theorem decode?_encode (pairs : List (String × String)) : decode? (encode pairs) = some pairs := by
  by_cases hpairs : pairs = []
  · subst hpairs
    rfl
  have hpieces : pieces '&' (encode pairs) = pairs.map encodePair := by
    rw [encode_eq_intercalate]
    exact pieces_intercalate (mt List.map_eq_nil_iff.1 hpairs)
      (List.forall_mem_map.2 fun pair _ => notMem_encodePair (by decide) (by decide) pair)
  have hfull : ∀ piece ∈ pairs.map encodePair, (!piece.isEmpty) = true :=
    List.forall_mem_map.2 fun pair _ => by simp [encodePair]
  rw [decode?, hpieces, List.filter_eq_self.2 hfull]
  clear hpairs hpieces hfull
  induction pairs with
  | nil => rfl
  | cons pair rest ih =>
    rw [List.map_cons, List.mapM_cons, decodePair?_encodePair, ih]
    rfl

/-- Nothing foreign shows in the pairs but the signs between them and in them. -/
theorem notMem_encode (h : isForeign c = true) (hequals : c ≠ '=') (hampersand : c ≠ '&')
    (pairs : List (String × String)) : c ∉ encode pairs := by
  fun_induction encode pairs with
  | case1 => exact List.not_mem_nil
  | case2 pair => exact notMem_encodePair h hequals pair
  | case3 pair rest _ ih =>
    rw [List.mem_append, List.mem_cons]
    rintro (hpair | hsign | hrest)
    · exact notMem_encodePair h hequals pair hpair
    · exact hampersand hsign
    · exact ih hrest

end AlertDetail.Text.Form
