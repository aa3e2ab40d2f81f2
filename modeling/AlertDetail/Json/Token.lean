import AlertDetail.Json.Numeral

/-!
# Tokens of a JSON text

A text cut into brackets, separators, scalars and strings. Nothing but the four kinds of white
space may stand between them, control characters may not stand in a string, and no escape outside
the standard ones is accepted. A string whose escapes leave half a surrogate pair is a token
without a text.
-/

namespace AlertDetail.Json

/-- A token. -/
inductive Token where
  | openBrace
  | closeBrace
  | openBracket
  | closeBracket
  | comma
  | colon
  /-- A word or a number. -/
  | scalar (value : Json)
  /-- A string, with its text if it has one. -/
  | text (value : Option String)

/-- White space between tokens. -/
def isSpace (c : Char) : Bool :=
  c == ' ' || c == '\t' || c == '\n' || c == '\r'

/-- What one place of a string writes: a character, or a numbered unit of the 16-bit form. -/
inductive Piece where
  | char (c : Char)
  | unit (n : Nat)

/-- Value of a hexadecimal digit of either case. -/
def hexValue? (c : Char) : Option Nat :=
  if c.isDigit then some (c.toNat - 0x30)
  else if 'a' ≤ c ∧ c ≤ 'f' then some (c.toNat - 0x61 + 10)
  else if 'A' ≤ c ∧ c ≤ 'F' then some (c.toNat - 0x41 + 10)
  else none

/-- The number of four hexadecimal digits. -/
def fourHex? (a b c d : Char) : Option Nat := do
  return (((← hexValue? a) * 16 + (← hexValue? b)) * 16 + (← hexValue? c)) * 16 + (← hexValue? d)

/-- The character of an escape of one letter. -/
def shortEscape? : Char → Option Char
  | '"' => some '"'
  | '\\' => some '\\'
  | '/' => some '/'
  | 'b' => some '\x08'
  | 'f' => some '\x0c'
  | 'n' => some '\n'
  | 'r' => some '\r'
  | 't' => some '\t'
  | _ => none

/-- The places of a string up to its closing quote, and the text after the quote. -/
def piecesOf? : List Char → Option (List Piece × List Char)
  | [] => none
  | '"' :: rest => some ([], rest)
  | '\\' :: 'u' :: a :: b :: c :: d :: rest => do
    let n ← fourHex? a b c d
    let (pieces, rest) ← piecesOf? rest
    return (.unit n :: pieces, rest)
  | '\\' :: letter :: rest => do
    let c ← shortEscape? letter
    let (pieces, rest) ← piecesOf? rest
    return (.char c :: pieces, rest)
  | c :: rest =>
    if c = '\\' ∨ c.toNat < 0x20 then none
    else do
      let (pieces, rest) ← piecesOf? rest
      return (.char c :: pieces, rest)

/-- The text of a string, none if a surrogate stands alone. -/
def textOf? : List Piece → Option (List Char)
  | [] => some []
  | .char c :: rest => (c :: ·) <$> textOf? rest
  | .unit high :: .unit low :: rest =>
    if 0xD800 ≤ high ∧ high ≤ 0xDBFF then
      if 0xDC00 ≤ low ∧ low ≤ 0xDFFF then
        (Char.ofNat (0x10000 + (high - 0xD800) * 0x400 + (low - 0xDC00)) :: ·) <$> textOf? rest
      else none
    else if 0xDC00 ≤ high ∧ high ≤ 0xDFFF then none
    else (Char.ofNat high :: ·) <$> textOf? (.unit low :: rest)
  | .unit n :: rest =>
    if 0xD800 ≤ n ∧ n ≤ 0xDFFF then none else (Char.ofNat n :: ·) <$> textOf? rest

/-- Separators and brackets. -/
def mark? : Char → Option Token
  | '{' => some .openBrace
  | '}' => some .closeBrace
  | '[' => some .openBracket
  | ']' => some .closeBracket
  | ',' => some .comma
  | ':' => some .colon
  | _ => none

/-- The token at the start of a text that begins with no white space, and what is left. -/
def token? : List Char → Option (Token × List Char)
  | [] => none
  | '"' :: rest => do
    let (pieces, rest) ← piecesOf? rest
    return (.text (.ofList <$> textOf? pieces), rest)
  | 'n' :: 'u' :: 'l' :: 'l' :: rest => some (.scalar .null, rest)
  | 't' :: 'r' :: 'u' :: 'e' :: rest => some (.scalar (.bool true), rest)
  | 'f' :: 'a' :: 'l' :: 's' :: 'e' :: rest => some (.scalar (.bool false), rest)
  | c :: rest =>
    match mark? c with
    | some mark => some (mark, rest)
    | none =>
      if isNumeralChar c then do
        let n ← Numeral.parse? ((c :: rest).takeWhile isNumeralChar)
        return (.scalar n.value, rest.dropWhile isNumeralChar)
      else none

theorem length_dropWhile_le {α : Type} (p : α → Bool) (l : List α) :
    (l.dropWhile p).length ≤ l.length :=
  (List.dropWhile_sublist p).length_le

theorem piecesOf?_length {text : List Char} {pieces : List Piece} {rest : List Char}
    (h : piecesOf? text = some (pieces, rest)) : rest.length < text.length := by
  fun_induction piecesOf? text generalizing pieces rest with
  | case1 => cases h
  | case2 => cases h; simp
  | case3 a b c d tail ih =>
    simp only [Option.bind_eq_bind, Option.bind_eq_some_iff, Option.pure_def] at h
    obtain ⟨_, _, ⟨p, r⟩, hp, hr⟩ := h
    cases hr
    have := ih hp
    simp only [List.length_cons]
    omega
  | case4 letter tail _ ih =>
    simp only [Option.bind_eq_bind, Option.bind_eq_some_iff, Option.pure_def] at h
    obtain ⟨_, _, ⟨p, r⟩, hp, hr⟩ := h
    cases hr
    have := ih hp
    simp only [List.length_cons]
    omega
  | case5 => cases h
  | case6 c tail _ _ _ _ ih =>
    simp only [Option.bind_eq_bind, Option.bind_eq_some_iff, Option.pure_def] at h
    obtain ⟨⟨p, r⟩, hp, hr⟩ := h
    cases hr
    have := ih hp
    simp only [List.length_cons]
    omega

/-- A token takes at least one character. -/
theorem token?_length {text : List Char} {token : Token} {rest : List Char}
    (h : token? text = some (token, rest)) : rest.length < text.length := by
  unfold token? at h
  split at h
  · cases h
  · simp only [Option.bind_eq_bind, Option.bind_eq_some_iff, Option.pure_def] at h
    obtain ⟨⟨p, r⟩, hp, hr⟩ := h
    cases hr
    have := piecesOf?_length hp
    simp only [List.length_cons]
    omega
  · cases h; simp only [List.length_cons]; omega
  · cases h; simp only [List.length_cons]; omega
  · cases h; simp only [List.length_cons]; omega
  · split at h
    · cases h; simp
    · split at h
      · simp only [Option.bind_eq_bind, Option.bind_eq_some_iff, Option.pure_def] at h
        obtain ⟨_, _, hr⟩ := h
        cases hr
        have := length_dropWhile_le isNumeralChar ‹List Char›
        simp only [List.length_cons]
        omega
      · cases h

/-- The tokens of a text, none where it has a fault. -/
def tokens? (text : List Char) : Option (List Token) :=
  match _h : text.dropWhile isSpace with
  | [] => some []
  | c :: rest =>
    match _ht : token? (c :: rest) with
    | none => none
    | some (token, rest) => (token :: ·) <$> tokens? rest
termination_by text.length
decreasing_by
  have := token?_length _ht
  have := length_dropWhile_le isSpace text
  rw [_h] at this
  omega

end AlertDetail.Json
