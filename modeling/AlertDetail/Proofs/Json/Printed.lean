import AlertDetail.Json.Printer
import AlertDetail.Json.Reader
import AlertDetail.Proofs.Json.Sound

/-!
# Reading what was written

The compact form of a value is read back as that value: every key again, every container in its
order, every string with its escapes undone. Whole numbers must fit in 64 bits. Whether a double is
read back as itself is a property of that double, since decimals are read in two roundings.
-/

namespace AlertDetail.Json

/-! ## Strings -/

section Strings

variable {c letter : Char}

/-- A place, once the places after it are known. -/
def placed (piece : Piece) (found : Option (List Piece × List Char)) :
    Option (List Piece × List Char) :=
  found.map fun found => (piece :: found.1, found.2)

/-- An escape of one letter. -/
theorem piecesOf?_shortEscape (h : shortEscape? letter = some c) (rest : List Char) :
    piecesOf? ('\\' :: letter :: rest) = placed (.char c) (piecesOf? rest) := by
  have hletter : letter ≠ 'u' := by
    rintro rfl
    cases h
  rw [piecesOf?.eq_4 letter rest fun _ _ _ _ _ hu => (hletter hu).elim, h]
  cases piecesOf? rest <;> rfl

/-- An escape by the number of a control character. -/
theorem piecesOf?_numberEscape (high low : Nat) (hhigh : high < 16) (hlow : low < 16)
    (rest : List Char) :
    piecesOf? ('\\' :: 'u' :: '0' :: '0' :: hexDigit high :: hexDigit low :: rest) =
      placed (.unit (high * 16 + low)) (piecesOf? rest) := by
  have hdigit : ∀ n < 16, hexValue? (hexDigit n) = some n := by decide
  have hfour : fourHex? '0' '0' (hexDigit high) (hexDigit low) = some (high * 16 + low) := by
    have hzero : hexValue? '0' = some 0 := by decide
    simp [fourHex?, hdigit high hhigh, hdigit low hlow, hzero]
  rw [piecesOf?, hfour]
  cases piecesOf? rest <;> rfl

/-- A character that stands for itself. -/
theorem piecesOf?_plain (hquote : c ≠ '"') (hslash : c ≠ '\\') (hcontrol : ¬ c.toNat < 0x20)
    (rest : List Char) :
    piecesOf? (c :: rest) = placed (.char c) (piecesOf? rest) := by
  rw [piecesOf?.eq_5 c rest hquote (fun _ _ _ _ _ h => (hslash h).elim)
    (fun _ _ h => (hslash h).elim), if_neg (not_or.2 ⟨hslash, hcontrol⟩)]
  cases piecesOf? rest <;> rfl

end Strings

/-- Places that write a character, whatever comes after them. -/
def Piece.Writes (piece : Piece) (c : Char) : Prop :=
  ∀ pieces, textOf? (piece :: pieces) = (textOf? pieces).map (c :: ·)

theorem writes_char (c : Char) : (Piece.char c).Writes c := fun _ => rfl

/-- A numbered unit below the surrogates writes a character by itself. -/
theorem writes_unit {n : Nat} (h : n < 0xD800) : (Piece.unit n).Writes (Char.ofNat n) := by
  intro pieces
  have hhigh : ¬ (0xD800 ≤ n ∧ n ≤ 0xDBFF) := by omega
  have hlow : ¬ (0xDC00 ≤ n ∧ n ≤ 0xDFFF) := by omega
  have hany : ¬ (0xD800 ≤ n ∧ n ≤ 0xDFFF) := by omega
  match pieces with
  | [] => simp [textOf?, hany]
  | .char c :: rest => simp [textOf?, hany]
  | .unit low :: rest => rw [textOf?, if_neg hhigh, if_neg hlow]; rfl

/-- An escaped character is read as one place that writes it. -/
theorem exists_piece_escapeChar (c : Char) : ∃ piece : Piece, piece.Writes c ∧
    ∀ rest, piecesOf? (escapeChar c ++ rest) = placed piece (piecesOf? rest) := by
  have hshort {letter : Char} (h : shortEscape? letter = some c) : ∃ piece : Piece,
      piece.Writes c ∧
        ∀ rest, piecesOf? (['\\', letter] ++ rest) = placed piece (piecesOf? rest) :=
    ⟨.char c, writes_char c, piecesOf?_shortEscape h⟩
  unfold escapeChar
  split
  · next h => exact hshort (by rw [h]; rfl)
  split
  · next h => exact hshort (by rw [h]; rfl)
  split
  · next h => exact hshort (by rw [h]; rfl)
  split
  · next h => exact hshort (by rw [h]; rfl)
  split
  · next h => exact hshort (by rw [h]; rfl)
  split
  · next h => exact hshort (by rw [h]; rfl)
  split
  · next h => exact hshort (by rw [h]; rfl)
  split
  · next hcontrol =>
    have hnumber : c.toNat / 16 * 16 + c.toNat % 16 = c.toNat := by omega
    refine ⟨.unit c.toNat, ?_, fun rest => ?_⟩
    · have hwrites : (Piece.unit c.toNat).Writes (Char.ofNat c.toNat) := writes_unit (by omega)
      rwa [Char.ofNat_toNat] at hwrites
    · have hread := piecesOf?_numberEscape (c.toNat / 16) (c.toNat % 16) (by omega) (by omega) rest
      rwa [hnumber] at hread
  · next hquote hslash _ _ _ _ _ hcontrol =>
    exact ⟨.char c, writes_char c, piecesOf?_plain hquote hslash hcontrol⟩

/-- A string with its escapes is read as the text it was written for. -/
theorem textOf?_piecesOf? (text rest : List Char) : ∃ pieces,
    piecesOf? (text.flatMap escapeChar ++ '"' :: rest) = some (pieces, rest) ∧
      textOf? pieces = some text := by
  induction text with
  | nil => exact ⟨[], by rw [List.flatMap_nil, List.nil_append, piecesOf?], rfl⟩
  | cons c text ih =>
    obtain ⟨pieces, hpieces, htext⟩ := ih
    obtain ⟨piece, hwrites, hread⟩ := exists_piece_escapeChar c
    refine ⟨piece :: pieces, ?_, ?_⟩
    · rw [List.flatMap_cons, List.append_assoc, hread, hpieces]
      rfl
    · rw [hwrites, htext]
      rfl

/-- A string is one token. -/
theorem token?_renderString (text : String) (rest : List Char) :
    token? ((renderString text).toList ++ rest) = some (.text (some text), rest) := by
  obtain ⟨pieces, hpieces, htext⟩ := textOf?_piecesOf? text.toList rest
  have hsplit : (renderString text).toList ++ rest =
      '"' :: (text.toList.flatMap escapeChar ++ '"' :: rest) := by
    simp [renderString]
  rw [hsplit, token?, hpieces]
  simp [htext]

/-! ## Numbers -/

/-- A character of a number starts a number. -/
theorem token?_of_isNumeralChar {c : Char} (hc : isNumeralChar c = true) (text : List Char) :
    token? (c :: text) = (Numeral.parse? ((c :: text).takeWhile isNumeralChar)).map fun n =>
      (.scalar n.value, text.dropWhile isNumeralChar) := by
  have hmark : mark? c = none := by
    unfold mark?
    split <;> first | rfl | exact absurd hc (by decide)
  unfold token?
  split <;> rename_i heq
  · cases heq
  · cases heq; exact absurd hc (by decide)
  · cases heq; exact absurd hc (by decide)
  · cases heq; exact absurd hc (by decide)
  · cases heq; exact absurd hc (by decide)
  · cases heq
    rw [hmark]
    simp only [hc, if_true]
    cases Numeral.parse? _ <;> rfl

/-- A text that does not go on with a character of a number. -/
def Parted (rest : List Char) : Prop := ∀ c ∈ rest.head?, isNumeralChar c = false

/-- Characters of a number that stand by themselves are one token, if they write a number. -/
theorem token?_numeral {text rest : List Char} (hne : text ≠ [])
    (hall : ∀ c ∈ text, isNumeralChar c = true) (hrest : Parted rest) :
    token? (text ++ rest) = (Numeral.parse? text).map fun n => (.scalar n.value, rest) := by
  obtain ⟨c, others, rfl⟩ := List.exists_cons_of_ne_nil hne
  obtain ⟨hc, hothers⟩ := List.forall_mem_cons.1 hall
  have hnone : rest.takeWhile isNumeralChar = [] ∧ rest.dropWhile isNumeralChar = rest := by
    cases rest with
    | nil => exact ⟨rfl, rfl⟩
    | cons d _ =>
      have hd : ¬ isNumeralChar d = true := Bool.eq_false_iff.1 (hrest d rfl)
      exact ⟨List.takeWhile_cons_of_neg hd, List.dropWhile_cons_of_neg hd⟩
  rw [List.cons_append, token?_of_isNumeralChar hc, List.dropWhile_append_of_pos hothers, hnone.2,
    ← List.cons_append, List.takeWhile_append_of_pos hall, hnone.1, List.append_nil]

/-! ### Whole numbers -/

section Digits

variable {n : Nat}

/-- Only zero is written with a zero in front. -/
theorem head?_toDigits (h : 0 < n) :
    ∃ c, (Nat.toDigits 10 n).head? = some c ∧ digitValue c ≠ 0 := by
  induction n using Nat.strongRecOn with
  | ind n ih =>
    rw [Nat.toDigits_eq_if (by decide)]
    split
    · next hlt =>
      have hall : ∀ k < 10, 0 < k → digitValue k.digitChar ≠ 0 := by decide
      exact ⟨n.digitChar, rfl, hall n hlt h⟩
    · obtain ⟨c, hhead, hvalue⟩ := ih (n / 10) (by omega) (by omega)
      refine ⟨c, ?_, hvalue⟩
      rw [List.head?_append, hhead]
      rfl

/-- The digits of a number write it. -/
theorem ofDigits_toDigits : ofDigits ((Nat.toDigits 10 n).map digitValue) = n := by
  have hread := Nat.ofDigitChars_toDigits (b := 10) (n := n) (by decide) (by decide)
  rw [Nat.ofDigitChars_eq_foldl] at hread
  rw [ofDigits, List.foldl_map]
  simp only [Nat.mul_comm 10] at hread
  exact hread

/-- They are read to their end. -/
theorem someDigits?_toDigits :
    someDigits? (Nat.toDigits 10 n) = some ((Nat.toDigits 10 n).map digitValue, []) := by
  have hall : ∀ c ∈ Nat.toDigits 10 n, c.isDigit = true := fun c hc =>
    Nat.isDigit_of_mem_toDigits (by decide) (by decide) hc
  have htake : (Nat.toDigits 10 n ++ []).takeWhile Char.isDigit = Nat.toDigits 10 n ++ [] :=
    List.takeWhile_append_of_pos hall
  have hdrop : (Nat.toDigits 10 n ++ []).dropWhile Char.isDigit = [] :=
    List.dropWhile_append_of_pos hall
  rw [List.append_nil] at htake hdrop
  unfold someDigits?
  rw [htake, hdrop]
  split
  · next hnil => exact absurd hnil Nat.toDigits_ne_nil
  · rfl

/-- They stand for a whole number, with a minus sign in front or without. -/
theorem parse?_toDigits :
    Numeral.parse? (Nat.toDigits 10 n) =
        some ⟨false, (Nat.toDigits 10 n).map digitValue, [], none⟩ ∧
      Numeral.parse? ('-' :: Nat.toDigits 10 n) =
        some ⟨true, (Nat.toDigits 10 n).map digitValue, [], none⟩ := by
  have hzeros : ¬ (((Nat.toDigits 10 n).map digitValue).head? = some 0 ∧
      ((Nat.toDigits 10 n).map digitValue).length ≠ 1) := by
    rintro ⟨hhead, hlength⟩
    rcases Nat.eq_zero_or_pos n with rfl | hpos
    · exact hlength rfl
    · obtain ⟨c, hc, hvalue⟩ := head?_toDigits hpos
      rw [List.head?_map, hc] at hhead
      exact hvalue (Option.some.inj hhead)
  have hminus : ∀ rest, Nat.toDigits 10 n ≠ '-' :: rest := fun rest h => by
    have hmem : '-' ∈ Nat.toDigits 10 n := h ▸ List.mem_cons_self
    exact absurd (Nat.isDigit_of_mem_toDigits (by decide) (by decide) hmem) (by decide)
  constructor
  · unfold Numeral.parse?
    split
    · next heq =>
      split at heq
      · next hhead => exact absurd hhead (hminus _)
      · obtain ⟨rfl, rfl⟩ := Prod.mk.inj heq
        rw [someDigits?_toDigits]
        simp only [bind, Option.bind_some]
        rw [if_neg hzeros]
        rfl
  · unfold Numeral.parse?
    simp only [someDigits?_toDigits, bind, Option.bind_some]
    rw [if_neg hzeros]
    rfl

end Digits

/-- A whole number of 64 bits is one token. -/
theorem token?_int {n : Int} (h : Whole n) {rest : List Char} (hrest : Parted rest) :
    token? ((toString n).toList ++ rest) = some (.scalar (.int n), rest) := by
  have hdigits (k : Nat) : ∀ c ∈ Nat.toDigits 10 k, isNumeralChar c = true := fun c hc => by
    have := Nat.isDigit_of_mem_toDigits (by decide) (by decide) hc
    simp [isNumeralChar, this]
  simp only [Whole, leastInteger, Decimal.maxSignificand] at h
  rw [Int.toString_eq_repr, Int.repr_eq_if]
  split
  · next hsign =>
    obtain ⟨k, rfl⟩ := Int.eq_ofNat_of_zero_le hsign
    have hvalue : Numeral.value ⟨false, (Nat.toDigits 10 k).map digitValue, [], none⟩ =
        .int k := by
      unfold Numeral.value
      simp only [ofDigits_toDigits]
      rw [if_pos (by simp [Decimal.maxSignificand]; omega)]
      rfl
    rw [Nat.repr_eq_ofList_toDigits, String.toList_ofList,
      token?_numeral Nat.toDigits_ne_nil (hdigits _) hrest, Int.toNat_natCast, parse?_toDigits.1,
      Option.map_some, hvalue]
  · next hsign =>
    obtain ⟨k, rfl⟩ := Int.eq_negSucc_of_lt_zero (Int.not_le.1 hsign)
    have hvalue : Numeral.value ⟨true, (Nat.toDigits 10 (k + 1)).map digitValue, [], none⟩ =
        .int (.negSucc k) := by
      unfold Numeral.value
      simp only [ofDigits_toDigits]
      rw [if_pos (by simp [Decimal.maxSignificand]; omega)]
      rfl
    have hminus : ∀ c ∈ '-' :: Nat.toDigits 10 (k + 1), isNumeralChar c = true :=
      List.forall_mem_cons.2 ⟨by decide, hdigits _⟩
    have hnat : (-Int.negSucc k).toNat = k + 1 := by omega
    have htext : ("-" ++ (-Int.negSucc k).toNat.repr).toList = '-' :: Nat.toDigits 10 (k + 1) := by
      rw [hnat, Nat.repr_eq_ofList_toDigits]
      simp
    rw [htext, token?_numeral (List.cons_ne_nil _ _) hminus hrest, parse?_toDigits.2,
      Option.map_some, hvalue]

/-! ### Doubles -/

/-- Only characters of numbers stand in a text. -/
def NumeralText (text : String) : Prop := ∀ c ∈ text.toList, isNumeralChar c = true

instance (text : String) : Decidable (NumeralText text) := List.decidableBAll _ _

theorem numeralText_ofList {text : List Char} (h : ∀ c ∈ text, isNumeralChar c = true) :
    NumeralText (.ofList text) := by
  rwa [NumeralText, String.toList_ofList]

theorem numeralText_append {a b : String} (ha : NumeralText a) (hb : NumeralText b) :
    NumeralText (a ++ b) := by
  rw [NumeralText, String.toList_append]
  exact List.forall_mem_append.2 ⟨ha, hb⟩

theorem numeralText_repr (n : Nat) : NumeralText n.repr := by
  rw [Nat.repr_eq_ofList_toDigits]
  refine numeralText_ofList fun c hc => ?_
  have := Nat.isDigit_of_mem_toDigits (by decide) (by decide) hc
  simp [isNumeralChar, this]

theorem numeralText_toString (n : Int) : NumeralText (toString n) := by
  rw [Int.toString_eq_repr, Int.repr_eq_if]
  split
  · exact numeralText_repr _
  · exact numeralText_append (by decide) (numeralText_repr _)

/-- Digits under any layout stand among characters of numbers. -/
theorem numeralText_render (layout : Decimal.Layout) (d : Decimal.Digits) :
    NumeralText (d.render layout) := by
  have hdigits : ∀ c ∈ (Nat.repr d.value).toList, isNumeralChar c = true :=
    numeralText_repr d.value
  have hzeros (n : Nat) : ∀ c ∈ List.replicate n '0', isNumeralChar c = true := fun c hc =>
    (List.eq_of_mem_replicate hc) ▸ rfl
  have htail (n : Int) : NumeralText ("e" ++ toString n) :=
    numeralText_append (by decide) (numeralText_toString n)
  unfold Decimal.Digits.render
  dsimp only
  split
  · split
    · exact numeralText_ofList (List.forall_mem_append.2 ⟨List.forall_mem_append.2
        ⟨hdigits, hzeros _⟩, List.forall_mem_cons.2 ⟨rfl, List.forall_mem_cons.2 ⟨rfl,
          List.forall_mem_nil _⟩⟩⟩)
    · split
      · refine numeralText_ofList (List.forall_mem_append.2
          ⟨fun c hc => hdigits c (List.mem_of_mem_take hc), List.forall_mem_cons.2 ⟨rfl,
            fun c hc => hdigits c (List.mem_of_mem_drop hc)⟩⟩)
      · exact numeralText_ofList (List.forall_mem_cons.2 ⟨rfl, List.forall_mem_cons.2 ⟨rfl,
          List.forall_mem_append.2 ⟨hzeros _, hdigits⟩⟩⟩)
  · split
    · next only heq => exact numeralText_append (numeralText_ofList (heq ▸ hdigits)) (htail _)
    · next first others _ heq =>
      obtain ⟨hfirst, hothers⟩ := List.forall_mem_cons.1 (heq ▸ hdigits)
      exact numeralText_append (numeralText_ofList (List.forall_mem_cons.2 ⟨hfirst,
        List.forall_mem_cons.2 ⟨rfl, hothers⟩⟩)) (htail _)
    · exact htail _

/-- A finite double is written with characters of numbers. -/
theorem numeralText_renderFloat {x : Float} (h : x.isFinite = true) :
    NumeralText (renderFloat x) := by
  have hsign (b : Decimal.Binary) : NumeralText (if b.negative then "-" else "") := by
    split <;> decide
  unfold renderFloat
  split
  · next hnone => exact absurd (Decimal.Binary.ofFloat?_eq_none_iff.1 hnone) (by simp [h])
  · next b _ =>
    dsimp only
    split
    · exact numeralText_append (hsign b) (by decide)
    · exact numeralText_append (hsign b) (numeralText_render _ _)

/-! ## Values -/

/-- A token starts with no white space. -/
theorem token?_of_isSpace {c : Char} (h : isSpace c = true) (rest : List Char) :
    token? (c :: rest) = none := by
  simp only [isSpace, Bool.or_eq_true, beq_iff_eq] at h
  rcases h with ((rfl | rfl) | rfl) | rfl <;> rfl

namespace Reader

variable {reader : Reader} {text rest : List Char}

/-- The reader after a whole text. -/
def run? (reader : Reader) (text : List Char) : Option Reader :=
  (tokens? text).bind fun tokens => tokens.foldlM step? reader

theorem run?_nil : reader.run? [] = some reader := by
  unfold run?
  rw [tokens?]
  rfl

/-- A token at the start of the text is one step. -/
theorem run?_of_token? (token : Token) (h : token? text = some (token, rest)) :
    reader.run? text = (reader.step? token).bind (·.run? rest) := by
  cases text with
  | nil => cases h
  | cons c others =>
    have hspace : ¬ isSpace c = true := fun hspace => by
      rw [token?_of_isSpace hspace] at h
      cases h
    have htokens : tokens? (c :: others) = (tokens? rest).map (token :: ·) := by
      rw [tokens?]
      split <;> rename_i heq
      · rw [List.dropWhile_cons_of_neg hspace] at heq
        cases heq
      · rw [List.dropWhile_cons_of_neg hspace] at heq
        obtain ⟨rfl, rfl⟩ := List.cons.inj heq
        split <;> rename_i hfound
        · rw [h] at hfound
          cases hfound
        · rw [h] at hfound
          obtain ⟨rfl, rfl⟩ := Prod.mk.inj (Option.some.inj hfound)
          rfl
    unfold run?
    rw [htokens]
    cases tokens? rest with
    | none => cases reader.step? token <;> rfl
    | some tokens => exact List.foldlM_cons

/-- Where there is no token but something else than white space, nothing is read. -/
theorem run?_of_fault {c : Char} (hspace : ¬ isSpace c = true) (h : token? (c :: rest) = none) :
    reader.run? (c :: rest) = none := by
  have htokens : tokens? (c :: rest) = none := by
    rw [tokens?]
    split <;> rename_i heq
    · rw [List.dropWhile_cons_of_neg hspace] at heq
      cases heq
    · rw [List.dropWhile_cons_of_neg hspace] at heq
      obtain ⟨rfl, rfl⟩ := List.cons.inj heq
      split <;> rename_i hfound
      · rfl
      · rw [h] at hfound
        cases hfound
  rw [run?, htokens]
  rfl

end Reader

theorem parse?_eq_run? (text : String) :
    parse? text = (Reader.start.run? text.toList).bind Reader.result? := by
  unfold parse? Reader.run?
  cases tokens? text.toList <;> rfl

/-- A text of one scalar has its value. -/
theorem parse?_of_token? {text : String} {value : Json}
    (h : token? text.toList = some (.scalar value, [])) : parse? text = some value := by
  rw [parse?_eq_run?, Reader.run?_of_token? _ h]
  exact congrArg (Option.bind · Reader.result?) Reader.run?_nil

/-- A double that is read back from its text. -/
def Rereads (x : Float) : Prop := parse? (renderFloat x) = some (.float x)

/-- Whether a value is a certain double. -/
def isDouble (x : Float) : Json → Bool
  | .float y => y = x
  | _ => false

theorem isDouble_iff {x : Float} {value : Json} : value.isDouble x = true ↔ value = .float x := by
  cases value <;> simp [isDouble]

instance (x : Float) : Decidable (Rereads x) :=
  decidable_of_iff ((parse? (renderFloat x)).any (isDouble x)) <| by
    simp [Rereads, Option.any_eq_true, isDouble_iff]

/-- Only finite doubles are. -/
theorem isFinite_of_rereads {x : Float} (h : Rereads x) : x.isFinite = true := by
  cases hfinite : x.isFinite with
  | true => rfl
  | false =>
    have htext : renderFloat x = "null" := by
      rw [renderFloat, Decimal.Binary.ofFloat?_eq_none_iff.2 hfinite]
    have hnull : parse? "null" = some .null := parse?_of_token? rfl
    rw [Rereads, htext, hnull] at h
    cases h

/-- Such a double is one token. -/
theorem token?_renderFloat {x : Float} (h : Rereads x) {rest : List Char} (hrest : Parted rest) :
    token? ((renderFloat x).toList ++ rest) = some (.scalar (.float x), rest) := by
  have hall := numeralText_renderFloat (isFinite_of_rereads h)
  have hread := h
  rw [Rereads, parse?_eq_run?] at hread
  cases htext : (renderFloat x).toList with
  | nil =>
    rw [htext, Reader.run?_nil] at hread
    cases hread
  | cons c others =>
    rw [NumeralText, htext] at hall
    rw [htext] at hread
    have hne : c :: others ≠ [] := List.cons_ne_nil _ _
    have hspace : ¬ isSpace c = true := fun hspace => by
      have hc : isNumeralChar c = true := hall c List.mem_cons_self
      simp only [isSpace, Bool.or_eq_true, beq_iff_eq] at hspace
      rcases hspace with ((rfl | rfl) | rfl) | rfl <;> exact absurd hc (by decide)
    have hend : Parted [] := nofun
    have htoken := token?_numeral hne hall hend
    rw [List.append_nil] at htoken
    rw [token?_numeral hne hall hrest]
    cases hparse : Numeral.parse? (c :: others) with
    | none =>
      rw [hparse, Option.map_none] at htoken
      rw [Reader.run?_of_fault hspace htoken] at hread
      cases hread
    | some n =>
      rw [hparse, Option.map_some] at htoken
      have hvalue : parse? (renderFloat x) = some n.value := parse?_of_token? (htext ▸ htoken)
      rw [Option.map_some, Option.some.inj (hvalue.symm.trans h)]

/-- Where a value may begin. -/
def Expected.Opens : Expected → Prop
  | .value => True
  | .firstItem => True
  | _ => False

/-- There a token that does not close a list opens a value or is one. -/
theorem Reader.step?_of_opens {stack : List Frame} {expected : Expected} {token : Token}
    (hopens : expected.Opens) (htoken : token ≠ .closeBracket) :
    Reader.step? ⟨stack, expected⟩ token = Reader.value? stack token := by
  cases expected with
  | value => rfl
  | firstItem => cases token <;> first | rfl | exact absurd rfl htoken
  | key _ => exact hopens.elim
  | colon _ _ => exact hopens.elim
  | next _ => exact hopens.elim

/-- There such a token is read whatever was to be read. -/
theorem Reader.run?_of_opens {stack : List Frame} {expected : Expected} {text rest : List Char}
    (hopens : expected.Opens) (token : Token) (h : token? text = some (token, rest))
    (htoken : token ≠ .closeBracket) :
    Reader.run? ⟨stack, expected⟩ text = (Reader.value? stack token).bind (·.run? rest) := by
  rw [Reader.run?_of_token? token h, Reader.step?_of_opens hopens htoken]

theorem parted_cons (c : Char) (h : isNumeralChar c = false) (rest : List Char) :
    Parted (c :: rest) := fun _ hd => Option.some.inj hd ▸ h

/-- Where a value may begin, the compact form of this value is read as the value. -/
def Reads (value : Json) : Prop :=
  ∀ stack expected rest, Expected.Opens expected → Parted rest →
    Reader.run? ⟨stack, expected⟩ (value.render.toList ++ rest) =
      Reader.run? ⟨stack, .next value⟩ rest

/-- In an open list the items that are left are read up to the bracket that closes it. -/
theorem run?_items {items : List Json} (h : ∀ item ∈ items, item.Reads) (hne : items ≠ [])
    (done : List Json) (stack : List Frame) (expected : Expected) (hopens : expected.Opens)
    (rest : List Char) :
    Reader.run? ⟨.items done.reverse :: stack, expected⟩
        ((",".intercalate (renderItems items)).toList ++ ']' :: rest) =
      Reader.run? ⟨stack, .next (.arr (done ++ items))⟩ rest := by
  induction items generalizing done expected with
  | nil => exact absurd rfl hne
  | cons item others ih =>
    obtain ⟨hitem, hothers⟩ := List.forall_mem_cons.1 h
    cases others with
    | nil =>
      have hclosed : Reader.step? ⟨.items done.reverse :: stack, .next item⟩ .closeBracket =
          some ⟨stack, .next (.arr (done ++ [item]))⟩ := by
        simp [Reader.step?]
      rw [renderItems, renderItems, String.intercalate_singleton,
        hitem _ _ _ hopens (parted_cons ']' rfl rest), Reader.run?_of_token? .closeBracket rfl,
        hclosed]
      rfl
    | cons second others =>
      have hsplit : (",".intercalate (renderItems (item :: second :: others))).toList ++
          ']' :: rest = item.render.toList ++ (',' ::
            ((",".intercalate (renderItems (second :: others))).toList ++ ']' :: rest)) := by
        simp [renderItems]
      have hnext : Reader.step? ⟨.items done.reverse :: stack, .next item⟩ .comma =
          some ⟨.items (done ++ [item]).reverse :: stack, .value⟩ := by
        simp [Reader.step?]
      have hmore := ih hothers (List.cons_ne_nil _ _) (done ++ [item]) .value trivial
      rw [hsplit, hitem _ _ _ hopens (parted_cons ',' rfl _), Reader.run?_of_token? .comma rfl,
        hnext]
      rwa [List.append_assoc] at hmore

/-- A list of values that are read back is read back. -/
theorem reads_arr {items : List Json} (h : ∀ item ∈ items, item.Reads) :
    (Json.arr items).Reads := by
  intro stack expected rest hopens _
  cases items with
  | nil =>
    have hopened : (Json.arr []).render.toList ++ rest = '[' :: ']' :: rest := rfl
    rw [hopened, Reader.run?_of_opens hopens .openBracket rfl nofun]
    exact Reader.run?_of_token? .closeBracket rfl
  | cons item others =>
    have hopened : (Json.arr (item :: others)).render.toList ++ rest =
        '[' :: ((",".intercalate (renderItems (item :: others))).toList ++ ']' :: rest) := by
      simp [render]
    rw [hopened, Reader.run?_of_opens hopens .openBracket rfl nofun]
    exact run?_items h (List.cons_ne_nil _ _) [] stack .firstItem trivial rest

/-- Members as entries of an open object, the latest first. -/
def entries (members : List (String × Json)) : List Entry :=
  (members.map fun member => (some member.1, member.2)).reverse

/-- An object is closed with the members that were read, in their order. -/
theorem closeObject_entries (members : List (String × Json)) :
    closeObject (entries members) = .obj members := by
  have hread : (members.map fun member => (some member.1, member.2)).mapM
      (fun entry : Entry => entry.1.map (·, entry.2)) = some members := by
    induction members with
    | nil => rfl
    | cons member rest ih =>
      rw [List.map_cons, List.mapM_cons, ih]
      rfl
  unfold closeObject entries
  rw [List.reverse_reverse, hread]

/-- Where a key may stand, a member is read up to the end of its value. -/
theorem run?_member {key : String} {value : Json} (h : value.Reads) {done : List Entry}
    {stack : List Frame} {rest : List Char} (hrest : Parted rest) :
    Reader.run? ⟨stack, .key done⟩
        ((renderString key).toList ++ (':' :: (value.render.toList ++ rest))) =
      Reader.run? ⟨.members done (some key) :: stack, .next value⟩ rest := by
  have hkey : Reader.step? ⟨stack, .key done⟩ (.text (some key)) =
      some ⟨stack, .colon done (some key)⟩ := by
    cases done <;> rfl
  rw [Reader.run?_of_token? _ (token?_renderString key _), hkey]
  change Reader.run? ⟨stack, .colon done (some key)⟩ _ = _
  rw [Reader.run?_of_token? .colon rfl]
  exact h _ _ _ trivial hrest

/-- In an open object the members that are left are read up to the brace that closes it. -/
theorem run?_members {members : List (String × Json)} (h : ∀ member ∈ members, member.2.Reads)
    (hne : members ≠ []) (done : List (String × Json)) (stack : List Frame) (rest : List Char) :
    Reader.run? ⟨stack, .key (entries done)⟩
        ((",".intercalate (renderMembers members)).toList ++ '}' :: rest) =
      Reader.run? ⟨stack, .next (.obj (done ++ members))⟩ rest := by
  induction members generalizing done with
  | nil => exact absurd rfl hne
  | cons member others ih =>
    obtain ⟨key, value⟩ := member
    obtain ⟨hvalue, hothers⟩ := List.forall_mem_cons.1 h
    have hentries : (some key, value) :: entries done = entries (done ++ [(key, value)]) := by
      simp [entries]
    cases others with
    | nil =>
      have hsplit : (",".intercalate (renderMembers [(key, value)])).toList ++ '}' :: rest =
          (renderString key).toList ++ (':' :: (value.render.toList ++ ('}' :: rest))) := by
        simp [renderMembers]
      rw [hsplit, run?_member hvalue (parted_cons '}' rfl rest),
        Reader.run?_of_token? .closeBrace rfl]
      change Reader.run? ⟨stack, .next (closeObject ((some key, value) :: entries done))⟩ rest = _
      rw [hentries, closeObject_entries]
    | cons second others =>
      have hsplit : (",".intercalate (renderMembers ((key, value) :: second :: others))).toList ++
          '}' :: rest = (renderString key).toList ++ (':' :: (value.render.toList ++
            (',' :: ((",".intercalate (renderMembers (second :: others))).toList ++
              '}' :: rest)))) := by
        simp [renderMembers]
      have hmore := ih hothers (List.cons_ne_nil _ _) (done ++ [(key, value)])
      rw [hsplit, run?_member hvalue (parted_cons ',' rfl _), Reader.run?_of_token? .comma rfl]
      change Reader.run? ⟨stack, .key ((some key, value) :: entries done)⟩ _ = _
      rw [hentries]
      rwa [List.append_assoc] at hmore

/-- An object whose values are read back is read back. -/
theorem reads_obj {members : List (String × Json)} (h : ∀ member ∈ members, member.2.Reads) :
    (Json.obj members).Reads := by
  intro stack expected rest hopens _
  cases members with
  | nil =>
    have hopened : (Json.obj []).render.toList ++ rest = '{' :: '}' :: rest := rfl
    rw [hopened, Reader.run?_of_opens hopens .openBrace rfl nofun]
    exact Reader.run?_of_token? .closeBrace rfl
  | cons member others =>
    have hopened : (Json.obj (member :: others)).render.toList ++ rest =
        '{' :: ((",".intercalate (renderMembers (member :: others))).toList ++ '}' :: rest) := by
      simp [render]
    rw [hopened, Reader.run?_of_opens hopens .openBrace rfl nofun]
    exact run?_members h (List.cons_ne_nil _ _) [] stack rest

mutual

/-- A value is read back if all of it has a value, its whole numbers fit in 64 bits and its doubles
are read back. -/
theorem reads : (value : Json) → value.Numbers Whole Rereads → value.readable = true → value.Reads
  | .null, _, _ => fun _ _ _ hopens _ =>
    Reader.run?_of_opens hopens (.scalar .null) rfl nofun
  | .bool true, _, _ => fun _ _ _ hopens _ =>
    Reader.run?_of_opens hopens (.scalar (.bool true)) rfl nofun
  | .bool false, _, _ => fun _ _ _ hopens _ =>
    Reader.run?_of_opens hopens (.scalar (.bool false)) rfl nofun
  | .int n, hnumbers, _ => fun _ _ _ hopens hrest =>
    Reader.run?_of_opens hopens (.scalar (.int n)) (token?_int hnumbers hrest) nofun
  | .float x, hnumbers, _ => fun _ _ _ hopens hrest =>
    Reader.run?_of_opens hopens (.scalar (.float x)) (token?_renderFloat hnumbers hrest) nofun
  | .str text, _, _ => fun _ _ rest hopens _ =>
    Reader.run?_of_opens hopens (.text (some text)) (token?_renderString text rest) nofun
  | .arr items, hnumbers, hreadable => reads_arr (readsItems items hnumbers hreadable)
  | .obj members, hnumbers, hreadable => reads_obj (readsMembers members hnumbers hreadable)
  | .unreadable, _, hreadable => nomatch hreadable

/-- So is each of these items. -/
theorem readsItems : (items : List Json) → NumbersOfItems Whole Rereads items →
    readableItems items = true → ∀ item ∈ items, item.Reads
  | [], _, _ => List.forall_mem_nil _
  | item :: rest, hnumbers, hreadable => by
    obtain ⟨hitem, hrest⟩ := Bool.and_eq_true_iff.1 hreadable
    exact List.forall_mem_cons.2 ⟨reads item hnumbers.1 hitem, readsItems rest hnumbers.2 hrest⟩

/-- And the value of each of these members. -/
theorem readsMembers : (members : List (String × Json)) →
    NumbersOfMembers Whole Rereads members → readableMembers members = true →
      ∀ member ∈ members, member.2.Reads
  | [], _, _ => List.forall_mem_nil _
  | (_, value) :: rest, hnumbers, hreadable => by
    obtain ⟨hvalue, hrest⟩ := Bool.and_eq_true_iff.1 hreadable
    exact List.forall_mem_cons.2 ⟨reads value hnumbers.1 hvalue,
      readsMembers rest hnumbers.2 hrest⟩

end

/-- The compact form of such a value is a text with that value. -/
theorem parse?_render {value : Json} (hnumbers : value.Numbers Whole Rereads)
    (hreadable : value.readable = true) : parse? value.render = some value := by
  have hread := reads value hnumbers hreadable [] .value [] trivial nofun
  rw [List.append_nil] at hread
  rw [parse?_eq_run?]
  change (Reader.run? ⟨[], .value⟩ value.render.toList).bind _ = _
  rw [hread, Reader.run?_nil]
  rfl

/-! ## Doubles that are not finite -/

mutual

/-- The value with `null` for every double that is not finite. -/
def blanked : Json → Json
  | .float x => if x.isFinite then .float x else .null
  | .arr items => .arr (blankedItems items)
  | .obj members => .obj (blankedMembers members)
  | value => value

/-- Each item so. -/
def blankedItems : List Json → List Json
  | [] => []
  | item :: rest => item.blanked :: blankedItems rest

/-- The value of each member so. -/
def blankedMembers : List (String × Json) → List (String × Json)
  | [] => []
  | (key, value) :: rest => (key, value.blanked) :: blankedMembers rest

end

mutual

/-- It is written in the same way. -/
theorem render_blanked : (value : Json) → value.blanked.render = value.render
  | .float x => by
    unfold blanked
    split
    · rfl
    · next h =>
      have hnone := Decimal.Binary.ofFloat?_eq_none_iff.2 (Bool.eq_false_iff.2 h)
      rw [render, render, renderFloat, hnone]
  | .arr items => by rw [blanked, render, render, renderItems_blanked items]
  | .obj members => by rw [blanked, render, render, renderMembers_blanked members]
  | .null => rfl
  | .bool _ => rfl
  | .int _ => rfl
  | .str _ => rfl
  | .unreadable => rfl

/-- So is each item. -/
theorem renderItems_blanked :
    (items : List Json) → renderItems (blankedItems items) = renderItems items
  | [] => rfl
  | item :: rest => by
    rw [blankedItems, renderItems, renderItems, render_blanked item, renderItems_blanked rest]

/-- And each member. -/
theorem renderMembers_blanked : (members : List (String × Json)) →
    renderMembers (blankedMembers members) = renderMembers members
  | [] => rfl
  | (key, value) :: rest => by
    rw [blankedMembers, renderMembers, renderMembers, render_blanked value,
      renderMembers_blanked rest]

end

mutual

/-- What holds of the finite doubles holds of all that are left. -/
theorem numbers_blanked {whole : Int → Prop} {double : Float → Prop} :
    {value : Json} → value.Numbers whole (fun x => x.isFinite = true → double x) →
      value.blanked.Numbers whole double
  | .float x, h => by
    unfold blanked
    split
    · next hfinite => exact h hfinite
    · trivial
  | .arr _, h => numbersOfItems_blanked h
  | .obj _, h => numbersOfMembers_blanked h
  | .null, _ => trivial
  | .bool _, _ => trivial
  | .int _, h => h
  | .str _, _ => trivial
  | .unreadable, _ => trivial

/-- In items too. -/
theorem numbersOfItems_blanked {whole : Int → Prop} {double : Float → Prop} : {items : List Json} →
    NumbersOfItems whole (fun x => x.isFinite = true → double x) items →
      NumbersOfItems whole double (blankedItems items)
  | [], _ => trivial
  | _ :: _, h => ⟨numbers_blanked h.1, numbersOfItems_blanked h.2⟩

/-- And in the values of members. -/
theorem numbersOfMembers_blanked {whole : Int → Prop} {double : Float → Prop} :
    {members : List (String × Json)} →
      NumbersOfMembers whole (fun x => x.isFinite = true → double x) members →
        NumbersOfMembers whole double (blankedMembers members)
  | [], _ => trivial
  | (_, _) :: _, h => ⟨numbers_blanked h.1, numbersOfMembers_blanked h.2⟩

end

theorem blankedItems_eq_map (items : List Json) : blankedItems items = items.map blanked := by
  induction items with
  | nil => rfl
  | cons item rest ih => rw [blankedItems, ih, List.map_cons]

theorem blankedMembers_eq_map (members : List (String × Json)) :
    blankedMembers members = members.map fun member => (member.1, member.2.blanked) := by
  induction members with
  | nil => rfl
  | cons member rest ih => rw [blankedMembers, ih, List.map_cons]

end AlertDetail.Json
