import AlertDetail.Json.Reader
import AlertDetail.Payload.Fields
import AlertDetail.Proofs.Decimal.Finite

/-!
# Numbers in a value that was read

A text that is read gives whole numbers of 64 bits and finite doubles only, however deep they stand
and whether or not anyone looks at them. Each token has such a value, and the reader puts tokens
together without touching the numbers in them.
-/

namespace AlertDetail.Json

/-- What a reader gives for a list, it read from one of the items. -/
theorem exists_of_mem_mapM {α β : Type} {read : α → Option β} {items : List α} {values : List β}
    (h : items.mapM read = some values) {value : β} (hvalue : value ∈ values) :
    ∃ item ∈ items, read item = some value := by
  induction items generalizing values with
  | nil =>
    obtain rfl := Option.some.inj h
    cases hvalue
  | cons item rest ih =>
    rw [List.mapM_cons] at h
    simp only [bind, pure, Option.bind_eq_some_iff, Option.some.injEq] at h
    obtain ⟨first, hfirst, others, hothers, rfl⟩ := h
    rcases List.mem_cons.1 hvalue with rfl | hmem
    · exact ⟨item, List.mem_cons_self, hfirst⟩
    · obtain ⟨other, hother, hread⟩ := ih hothers hmem
      exact ⟨other, List.mem_cons_of_mem _ hother, hread⟩

section Numbers

variable (whole : Int → Prop) (double : Float → Prop)

mutual

/-- Whether all numbers in a value have a property: one for whole numbers, one for doubles. -/
def Numbers : Json → Prop
  | .int n => whole n
  | .float x => double x
  | .arr items => NumbersOfItems items
  | .obj members => NumbersOfMembers members
  | _ => True

/-- Whether all numbers in the items have it. -/
def NumbersOfItems : List Json → Prop
  | [] => True
  | item :: rest => item.Numbers ∧ NumbersOfItems rest

/-- Whether all numbers in the values of the members have it. -/
def NumbersOfMembers : List (String × Json) → Prop
  | [] => True
  | (_, value) :: rest => value.Numbers ∧ NumbersOfMembers rest

end

end Numbers

section Decisions

variable {whole : Int → Prop} {double : Float → Prop} [DecidablePred whole] [DecidablePred double]

mutual

instance decidableNumbers : (value : Json) → Decidable (value.Numbers whole double)
  | .int n => inferInstanceAs (Decidable (whole n))
  | .float x => inferInstanceAs (Decidable (double x))
  | .arr items => decidableNumbersOfItems items
  | .obj members => decidableNumbersOfMembers members
  | .null => inferInstanceAs (Decidable True)
  | .bool _ => inferInstanceAs (Decidable True)
  | .str _ => inferInstanceAs (Decidable True)
  | .unreadable => inferInstanceAs (Decidable True)

instance decidableNumbersOfItems :
    (items : List Json) → Decidable (NumbersOfItems whole double items)
  | [] => inferInstanceAs (Decidable True)
  | item :: rest => @instDecidableAnd _ _ (decidableNumbers item) (decidableNumbersOfItems rest)

instance decidableNumbersOfMembers :
    (members : List (String × Json)) → Decidable (NumbersOfMembers whole double members)
  | [] => inferInstanceAs (Decidable True)
  | (_, value) :: rest =>
    @instDecidableAnd _ _ (decidableNumbers value) (decidableNumbersOfMembers rest)

end

end Decisions

section Membership

variable {whole : Int → Prop} {double : Float → Prop}

theorem numbers_arr_iff {items : List Json} :
    (Json.arr items).Numbers whole double ↔ ∀ item ∈ items, item.Numbers whole double := by
  change NumbersOfItems whole double items ↔ _
  induction items with
  | nil => simp [NumbersOfItems]
  | cons item rest ih => simp [NumbersOfItems, ih]

theorem numbers_obj_iff {members : List (String × Json)} :
    (Json.obj members).Numbers whole double ↔
      ∀ member ∈ members, member.2.Numbers whole double := by
  change NumbersOfMembers whole double members ↔ _
  induction members with
  | nil => simp [NumbersOfMembers]
  | cons member rest ih => simp [NumbersOfMembers, ih]

theorem readable_arr_iff {items : List Json} :
    (Json.arr items).readable = true ↔ ∀ item ∈ items, item.readable = true := by
  change readableItems items = true ↔ _
  induction items with
  | nil => simp [readableItems]
  | cons item rest ih => simp [readableItems, ih]

theorem readable_obj_iff {members : List (String × Json)} :
    (Json.obj members).readable = true ↔ ∀ member ∈ members, member.2.readable = true := by
  change readableMembers members = true ↔ _
  induction members with
  | nil => simp [readableMembers]
  | cons member rest ih => simp [readableMembers, ih]

end Membership

section Combination

variable {whole whole₁ whole₂ : Int → Prop} {double double₁ double₂ : Float → Prop}

mutual

/-- What follows for each number from two properties follows for all of them. -/
theorem Numbers.combine (hwhole : ∀ n, whole₁ n → whole₂ n → whole n)
    (hdouble : ∀ x, double₁ x → double₂ x → double x) : {value : Json} →
      value.Numbers whole₁ double₁ → value.Numbers whole₂ double₂ → value.Numbers whole double
  | .int n, h₁, h₂ => hwhole n h₁ h₂
  | .float x, h₁, h₂ => hdouble x h₁ h₂
  | .arr _, h₁, h₂ => NumbersOfItems.combine hwhole hdouble h₁ h₂
  | .obj _, h₁, h₂ => NumbersOfMembers.combine hwhole hdouble h₁ h₂
  | .null, _, _ => trivial
  | .bool _, _, _ => trivial
  | .str _, _, _ => trivial
  | .unreadable, _, _ => trivial

/-- Also for those in items. -/
theorem NumbersOfItems.combine (hwhole : ∀ n, whole₁ n → whole₂ n → whole n)
    (hdouble : ∀ x, double₁ x → double₂ x → double x) : {items : List Json} →
      NumbersOfItems whole₁ double₁ items → NumbersOfItems whole₂ double₂ items →
        NumbersOfItems whole double items
  | [], _, _ => trivial
  | _ :: _, h₁, h₂ => ⟨Numbers.combine hwhole hdouble h₁.1 h₂.1,
      NumbersOfItems.combine hwhole hdouble h₁.2 h₂.2⟩

/-- And for those in the values of members. -/
theorem NumbersOfMembers.combine (hwhole : ∀ n, whole₁ n → whole₂ n → whole n)
    (hdouble : ∀ x, double₁ x → double₂ x → double x) : {members : List (String × Json)} →
      NumbersOfMembers whole₁ double₁ members → NumbersOfMembers whole₂ double₂ members →
        NumbersOfMembers whole double members
  | [], _, _ => trivial
  | (_, _) :: _, h₁, h₂ => ⟨Numbers.combine hwhole hdouble h₁.1 h₂.1,
      NumbersOfMembers.combine hwhole hdouble h₁.2 h₂.2⟩

end

/-- What follows for each number follows for all of them. -/
theorem Numbers.mono {value : Json} (h : value.Numbers whole₁ double₁)
    (hwhole : ∀ n, whole₁ n → whole n) (hdouble : ∀ x, double₁ x → double x) :
    value.Numbers whole double :=
  Numbers.combine (fun n hn _ => hwhole n hn) (fun x hx _ => hdouble x hx) h h

end Combination

/-- A whole number of 64 bits, signed or unsigned. -/
def Whole (n : Int) : Prop := leastInteger ≤ n ∧ n ≤ Decimal.maxSignificand

/-- Only whole numbers of 64 bits and finite doubles stand in the value. -/
def Sound (value : Json) : Prop := value.Numbers Whole fun x => x.isFinite = true

/-- The value of a number is sound, unreadable though it may be. -/
theorem sound_value (n : Numeral) : n.value.Sound := by
  unfold Numeral.value
  dsimp only
  split
  · next h =>
    obtain ⟨-, -, hlarge, hsigned⟩ := h
    change Whole _
    simp only [Whole, leastInteger, Decimal.maxSignificand] at hlarge ⊢
    split
    · next hnegative =>
      have := hsigned hnegative
      omega
    · omega
  · split
    · next x hx => exact Decimal.isFinite_of_read? hx
    · trivial

/-- Every scalar token is sound. -/
theorem sound_of_token? {text rest : List Char} {value : Json}
    (h : token? text = some (.scalar value, rest)) : value.Sound := by
  unfold token? at h
  split at h
  · cases h
  · simp only [bind, pure, Option.bind_eq_some_iff, Option.some.injEq, Prod.mk.injEq, reduceCtorEq,
      false_and, and_false, exists_false] at h
  · cases h; trivial
  · cases h; trivial
  · cases h; trivial
  · split at h
    · next mark hmark =>
      obtain ⟨rfl, -⟩ := Prod.mk.inj (Option.some.inj h)
      unfold mark? at hmark
      split at hmark <;> cases hmark
    · split at h
      · simp only [bind, pure, Option.bind_eq_some_iff, Option.some.injEq, Prod.mk.injEq,
          Token.scalar.injEq] at h
        obtain ⟨n, -, rfl, -⟩ := h
        exact sound_value n
      · cases h

/-- All scalar tokens of a text are sound. -/
theorem sound_of_tokens? {text : List Char} {tokens : List Token} (h : tokens? text = some tokens)
    {value : Json} (hvalue : Token.scalar value ∈ tokens) : value.Sound := by
  fun_induction tokens? text generalizing tokens with
  | case1 => cases h; cases hvalue
  | case2 => cases h
  | case3 text c rest hdrop token rest' htoken ih =>
    obtain ⟨others, hothers, rfl⟩ := Option.map_eq_some_iff.1 h
    rcases List.mem_cons.1 hvalue with rfl | hrest
    · exact sound_of_token? htoken
    · exact ih hothers hrest

/-- What an open container holds is sound. -/
def Frame.Sound : Frame → Prop
  | .items done => ∀ item ∈ done, item.Sound
  | .members done _ => ∀ entry ∈ done, entry.2.Sound

/-- What has been read of the innermost container, or of the value that is complete, is sound. -/
def Expected.Sound : Expected → Prop
  | .key done => ∀ entry ∈ done, entry.2.Sound
  | .colon done _ => ∀ entry ∈ done, entry.2.Sound
  | .next read => Json.Sound read
  | _ => True

/-- Everything that has been read so far is sound. -/
structure Reader.Sound (reader : Reader) : Prop where
  frames : ∀ frame ∈ reader.stack, frame.Sound
  expected : reader.expected.Sound

/-- An object of sound entries is sound. -/
theorem sound_closeObject {done : List Entry} (h : ∀ entry ∈ done, entry.2.Sound) :
    (closeObject done).Sound := by
  unfold closeObject
  split
  · next members hmembers =>
    refine numbers_obj_iff.2 fun member hmember => ?_
    obtain ⟨entry, hentry, hpaired⟩ := exists_of_mem_mapM hmembers hmember
    obtain ⟨key, -, rfl⟩ := Option.map_eq_some_iff.1 hpaired
    exact h entry (List.mem_reverse.1 hentry)
  · trivial

/-- A token that opens a value or is one keeps everything sound. -/
theorem Reader.sound_value? {stack : List Frame} (hstack : ∀ frame ∈ stack, frame.Sound)
    {token : Token} (htoken : ∀ read, token = .scalar read → Json.Sound read) {next : Reader}
    (h : Reader.value? stack token = some next) : next.Sound := by
  unfold Reader.value? at h
  split at h
  · next read =>
    obtain rfl := Option.some.inj h
    exact ⟨hstack, htoken read rfl⟩
  · obtain rfl := Option.some.inj h
    exact ⟨hstack, trivial⟩
  · obtain rfl := Option.some.inj h
    exact ⟨hstack, trivial⟩
  · obtain rfl := Option.some.inj h
    exact ⟨List.forall_mem_cons.2 ⟨List.forall_mem_nil _, hstack⟩, trivial⟩
  · obtain rfl := Option.some.inj h
    exact ⟨hstack, List.forall_mem_nil _⟩
  · cases h

/-- One more token keeps everything sound. -/
theorem Reader.sound_step? {reader next : Reader} (hsound : reader.Sound) {token : Token}
    (htoken : ∀ read, token = .scalar read → Json.Sound read)
    (h : reader.step? token = some next) : next.Sound := by
  obtain ⟨stack, expected⟩ := reader
  obtain ⟨hstack, hexpected⟩ := hsound
  unfold Reader.step? at h
  dsimp only at hstack hexpected h
  split at h
  case h_1 => exact Reader.sound_value? hstack htoken h
  case h_2 =>
    obtain rfl := Option.some.inj h
    exact ⟨fun frame hframe => hstack frame (List.mem_of_mem_tail hframe), trivial⟩
  case h_3 => exact Reader.sound_value? hstack htoken h
  case h_4 =>
    obtain rfl := Option.some.inj h
    exact ⟨hstack, trivial⟩
  case h_5 =>
    obtain rfl := Option.some.inj h
    exact ⟨hstack, hexpected⟩
  case h_6 =>
    obtain rfl := Option.some.inj h
    exact ⟨List.forall_mem_cons.2 ⟨hexpected, hstack⟩, trivial⟩
  case h_7 read _ =>
    -- the complete value goes to the innermost container, which may be complete with it
    split at h
    case h_1 =>
      obtain rfl := Option.some.inj h
      obtain ⟨hdone, hrest⟩ := List.forall_mem_cons.1 hstack
      exact ⟨List.forall_mem_cons.2 ⟨List.forall_mem_cons.2 ⟨hexpected, hdone⟩, hrest⟩, trivial⟩
    case h_2 =>
      obtain rfl := Option.some.inj h
      obtain ⟨hdone, hrest⟩ := List.forall_mem_cons.1 hstack
      refine ⟨hrest, numbers_arr_iff.2 fun item hitem => ?_⟩
      rcases List.mem_cons.1 (List.mem_reverse.1 hitem) with rfl | hitem
      · exact hexpected
      · exact hdone item hitem
    case h_3 =>
      obtain rfl := Option.some.inj h
      obtain ⟨hdone, hrest⟩ := List.forall_mem_cons.1 hstack
      exact ⟨hrest, List.forall_mem_cons.2 ⟨hexpected, hdone⟩⟩
    case h_4 =>
      obtain rfl := Option.some.inj h
      obtain ⟨hdone, hrest⟩ := List.forall_mem_cons.1 hstack
      exact ⟨hrest, sound_closeObject (List.forall_mem_cons.2 ⟨hexpected, hdone⟩)⟩
    case h_5 => cases h
  case h_8 => cases h

/-- A text that is read has a sound value. -/
theorem sound_of_parse? {text : String} {value : Json} (h : parse? text = some value) :
    value.Sound := by
  -- on the tokens still to come, for any reader that is sound so far
  have hrun (tokens : List Token) (reader last : Reader) (hsound : reader.Sound)
      (htokens : ∀ read, Token.scalar read ∈ tokens → Json.Sound read)
      (hlast : tokens.foldlM Reader.step? reader = some last) : last.Sound := by
    induction tokens generalizing reader with
    | nil =>
      obtain rfl := Option.some.inj hlast
      exact hsound
    | cons token rest ih =>
      rw [List.foldlM_cons] at hlast
      obtain ⟨next, hnext, hrest⟩ := Option.bind_eq_some_iff.1 hlast
      exact ih next (Reader.sound_step? hsound (fun read h => htokens read (h ▸ List.mem_cons_self))
        hnext) (fun read h => htokens read (List.mem_cons_of_mem _ h)) hrest
  simp only [parse?, bind, Option.bind_eq_some_iff] at h
  obtain ⟨tokens, htokens, last, hlast, hresult⟩ := h
  have hsound := hrun tokens Reader.start last ⟨List.forall_mem_nil _, trivial⟩
    (fun read hread => sound_of_tokens? htokens hread) hlast
  unfold Reader.result? at hresult
  split at hresult
  · next hexpected =>
    obtain rfl := Option.some.inj hresult
    have := hsound.expected
    rwa [hexpected] at this
  · cases hresult

end AlertDetail.Json
