import AlertDetail.Memo
import Mathlib.Data.List.SplitBy

/-!
# Computations of remembered values

A memo that is asked for one key after another computes a value at the first request of each maximal
block of requests with equal keys, and answers the rest of the block with it. Computing may do
anything at all: what a whole sequence of requests does is what the first requests of the blocks do,
in their order. Of the equality of keys only symmetry and transitivity are used.
-/

namespace AlertDetail.Memo

/-- A request for the value of a key, with what computes it. -/
structure Request (m : Type → Type) (κ α : Type) where
  /-- The key. -/
  key : κ
  /-- What computes the value. -/
  compute : Unit → m α

/-- An answer to a request. -/
structure Answer (α : Type) where
  /-- The value. -/
  value : α
  /-- How often a value was computed so far. -/
  computations : Nat
  deriving DecidableEq, Repr

variable {m : Type → Type} {κ α : Type}

/-- The answers to blocks of requests if every block is answered with one value, and `n` values were
computed before. -/
def shared (n : Nat) (blocks : List (List (Request m κ α))) (values : List α) : List (Answer α) :=
  ((blocks.zip values).mapIdx fun place (block, value) =>
    List.replicate block.length ⟨value, n + place + 1⟩).flatten

theorem shared_cons (n : Nat) (block : List (Request m κ α)) (blocks : List (List (Request m κ α)))
    (value : α) (values : List α) :
    shared n (block :: blocks) (value :: values) =
      List.replicate block.length ⟨value, n + 1⟩ ++ shared (n + 1) blocks values := by
  have hplace (place : Nat) : n + (place + 1) + 1 = n + 1 + place + 1 := by omega
  simp only [shared, List.zip_cons_cons, List.mapIdx_cons, List.flatten_cons, hplace, Nat.add_zero]

variable [BEq κ]

/-- The answers to requests that a memo gets one after another. -/
def answers [Monad m] (memo : Memo κ α) : List (Request m κ α) → m (List (Answer α))
  | [] => pure []
  | request :: rest => do
    let (value, memo) ← memo.getM request.key request.compute
    let later ← memo.answers rest
    return ⟨value, memo.computations⟩ :: later

/-- The longest runs of successive requests in which neighbours have equal keys. -/
def blocks (requests : List (Request m κ α)) : List (List (Request m κ α)) :=
  requests.splitBy fun earlier later => earlier.key == later.key

/-- Blocks of requests with equal keys, none of which can be extended into the next one. -/
structure Maximal (blocks : List (List (Request m κ α))) : Prop where
  /-- Every block has a first request. -/
  nonempty : ∀ block ∈ blocks, block ≠ []
  /-- The keys of a block are equal. -/
  same : ∀ block ∈ blocks, block.Pairwise fun earlier later => earlier.key == later.key
  /-- No key of a block is equal to one of the next block. -/
  apart : blocks.IsChain fun block next =>
    ∀ earlier ∈ block, ∀ later ∈ next, (earlier.key == later.key) = false

variable {earlier later : Request m κ α} {block : List (Request m κ α)}

section

variable {blocks : List (List (Request m κ α))}

theorem Maximal.tail (h : Maximal (block :: blocks)) : Maximal blocks where
  nonempty _ hblock := h.nonempty _ (.tail _ hblock)
  same _ hblock := h.same _ (.tail _ hblock)
  apart := h.apart.tail

/-- There are at most as many blocks as requests. -/
theorem Maximal.length_le (h : Maximal blocks) : blocks.length ≤ blocks.flatten.length := by
  induction blocks with
  | nil => exact Nat.le_refl _
  | cons block blocks ih =>
    have hpos := List.length_pos_of_ne_nil (h.nonempty block (.head _))
    have hrest := ih h.tail
    rw [List.flatten_cons, List.length_append, List.length_cons]
    omega

/-- The first key of what follows a block is not equal to its first key. -/
theorem Maximal.first_ne (h : Maximal (block :: blocks)) (hearlier : earlier ∈ block)
    (hlater : later ∈ blocks.flatten.head?) : (earlier.key == later.key) = false := by
  cases blocks with
  | nil => cases hlater
  | cons next blocks =>
    obtain ⟨first, further, rfl⟩ := List.exists_cons_of_ne_nil (h.nonempty next (.tail _ (.head _)))
    obtain rfl : first = later := Option.some.inj hlater
    exact (List.isChain_cons_cons.1 h.apart).1 _ hearlier _ (.head _)

end

section

variable [PartialEquivBEq κ]

/-- Where the keys of a block are equal, what is equal to one of them is equal to the last one. -/
theorem getLast_key_beq (hne : block ≠ [])
    (hsame : block.Pairwise fun earlier later => earlier.key == later.key)
    (hearlier : earlier ∈ block) (h : earlier.key == later.key) :
    (block.getLast hne).key == later.key := by
  rw [← List.dropLast_append_getLast hne, List.mem_append, List.mem_singleton] at hearlier
  rcases hearlier with hbefore | rfl
  · exact BEq.trans (BEq.symm (hsame.rel_dropLast_getLast hbefore)) h
  · exact h

/-- Where the keys of a block are equal, what is equal to one of them is equal to the first one. -/
theorem head_key_beq (hne : block ≠ [])
    (hsame : block.Pairwise fun earlier later => earlier.key == later.key)
    (hlater : later ∈ block) (h : earlier.key == later.key) :
    earlier.key == (block.head hne).key := by
  obtain ⟨first, further, rfl⟩ := List.exists_cons_of_ne_nil hne
  rcases List.mem_cons.1 hlater with rfl | hfurther
  · exact h
  · exact BEq.trans h (BEq.symm (List.rel_of_pairwise_cons hsame hfurther))

theorem pairwise_of_mem_blocks {requests : List (Request m κ α)}
    (h : block ∈ blocks requests) :
    block.Pairwise fun earlier later => earlier.key == later.key := by
  have htrans : IsTrans (Request m κ α) fun earlier later => earlier.key == later.key :=
    ⟨fun _ _ _ h h' => BEq.trans h h'⟩
  exact List.isChain_iff_pairwise.1 (List.isChain_of_mem_splitBy h)

/-- The blocks of requests cannot be extended. -/
theorem maximal_blocks (requests : List (Request m κ α)) : Maximal (blocks requests) where
  nonempty _ h := List.ne_nil_of_mem_splitBy h
  same _ h := pairwise_of_mem_blocks h
  apart := by
    refine (List.isChain_getLast_head_splitBy _ requests).imp_of_mem_imp ?_
    rintro block next hblock hnext ⟨hlast, hfirst, hends⟩ earlier hearlier later hlater
    by_contra hsame
    rw [Bool.not_eq_false] at hsame
    have hfromLast := getLast_key_beq hlast (pairwise_of_mem_blocks hblock) hearlier hsame
    have htoFirst := head_key_beq hfirst (pairwise_of_mem_blocks hnext) hlater hfromLast
    rw [hends] at htoFirst
    cases htoFirst

end

section

variable [Monad m] [LawfulMonad m] {memo : Memo κ α} {value : α} {first : Request m κ α}
  {further : List (Request m κ α)}

theorem answers_cons_of_held (h : memo.held? first.key = some value)
    (rest : List (Request m κ α)) :
    memo.answers (first :: rest) = (⟨value, memo.computations⟩ :: ·) <$> memo.answers rest := by
  simp [answers, getM_of_held h]

theorem answers_cons_of_not_held (h : memo.held? first.key = none)
    (rest : List (Request m κ α)) :
    memo.answers (first :: rest) = first.compute () >>= fun value =>
      (⟨value, memo.computations + 1⟩ :: ·) <$> (memo.remember first.key value).answers rest := by
  simp [answers, getM_of_not_held h]

/-- Requests for what is remembered are answered with it, and nothing is done for them. -/
theorem answers_append_of_held (h : ∀ request ∈ further, memo.held? request.key = some value)
    (rest : List (Request m κ α)) :
    memo.answers (further ++ rest) =
      (List.replicate further.length ⟨value, memo.computations⟩ ++ ·) <$> memo.answers rest := by
  induction further with
  | nil => simp
  | cons request further ih =>
    obtain ⟨hrequest, hfurther⟩ := List.forall_mem_cons.1 h
    rw [List.cons_append, answers_cons_of_held hrequest, ih hfurther]
    simp [List.replicate_succ]

/-- A block whose key is not remembered is answered with what its first request computes. What
follows is answered with that remembered. -/
theorem answers_block (hfirst : memo.held? first.key = none)
    (hsame : ∀ request ∈ further, first.key == request.key) (rest : List (Request m κ α)) :
    memo.answers (first :: further ++ rest) = first.compute () >>= fun value =>
      (List.replicate (first :: further).length ⟨value, memo.computations + 1⟩ ++ ·) <$>
        (memo.remember first.key value).answers rest := by
  have hheld (value : α) : ∀ request ∈ further,
      (memo.remember first.key value).held? request.key = some value := by
    intro request hrequest
    rw [held?_remember, if_pos (hsame request hrequest)]
  rw [List.cons_append, answers_cons_of_not_held hfirst]
  refine bind_congr fun value => ?_
  rw [answers_append_of_held (hheld value)]
  simp [List.replicate_succ]

/-- Blocks that cannot be extended are answered with what their first requests compute in order,
unless the first key of all is remembered. -/
theorem answers_flatten {blocks : List (List (Request m κ α))} (h : Maximal blocks)
    (hfirst : ∀ first ∈ blocks.flatten.head?, memo.held? first.key = none) :
    memo.answers blocks.flatten =
      shared memo.computations blocks <$>
        (blocks.filterMap List.head?).mapM fun first => first.compute () := by
  -- each block leaves a memo that holds its first key, and the next block begins with another one
  induction blocks generalizing memo with
  | nil => simp [answers, shared]
  | cons block blocks ih =>
    obtain ⟨first, further, rfl⟩ := List.exists_cons_of_ne_nil (h.nonempty block (.head _))
    have hsame : ∀ request ∈ further, first.key == request.key := fun _ hrequest =>
      List.rel_of_pairwise_cons (h.same _ (.head _)) hrequest
    have hnext (value : α) : ∀ next ∈ blocks.flatten.head?,
        (memo.remember first.key value).held? next.key = none := by
      intro next hnext
      rw [held?_remember, h.first_ne (.head _) hnext]
      rfl
    rw [List.flatten_cons, answers_block (hfirst first rfl) hsame,
      List.filterMap_cons_some List.head?_cons, List.mapM_cons, map_bind]
    refine bind_congr fun value => ?_
    rw [ih h.tail (hnext value)]
    simp [shared_cons]

end

/-- A memo computes one value for each block. Requests are made of an empty memo one after another,
and computing a value may do anything. They fall into the longest blocks of successive ones with
equal keys. All that is done for them is what the first requests of the blocks do to compute their
values, in order. Every request is answered with the value of its block, and values were computed by
then as often as there are blocks up to its own. There are no more blocks than requests, so a word
holds their number as long as it holds that of the requests. -/
theorem answers_by_blocks [Monad m] [LawfulMonad m] [PartialEquivBEq κ]
    (requests : List (Request m κ α)) :
    (blocks requests).flatten = requests ∧ Maximal (blocks requests) ∧
      (blocks requests).length ≤ requests.length ∧
      ({} : Memo κ α).answers requests = do
        let values ← ((blocks requests).filterMap List.head?).mapM fun first => first.compute ()
        return (((blocks requests).zip values).mapIdx fun place (block, value) =>
          List.replicate block.length ⟨value, place + 1⟩).flatten := by
  have hmaximal := maximal_blocks requests
  have hflatten : (blocks requests).flatten = requests := List.flatten_splitBy _ requests
  have hlength := hmaximal.length_le
  have hempty : ∀ first ∈ (blocks requests).flatten.head?,
      ({} : Memo κ α).held? first.key = none := fun _ _ => rfl
  have hanswers := answers_flatten hmaximal hempty
  rw [hflatten] at hlength hanswers
  refine ⟨hflatten, hmaximal, hlength, ?_⟩
  rw [hanswers, map_eq_pure_bind]
  simp only [shared, Nat.zero_add]

/-- A key comes back after another one, so it is computed again. What would be computed for a key
that is still remembered is not: the log shows three of four values. -/
theorem answers_by_blocks_returning_key :
    let request := fun (key : Nat) (value : String) => ({
      key, compute := fun _ => do modify (· ++ [value]); return value } :
        Request (StateM (List String)) Nat String)
    let requests := [request 1 "a", request 1 "b", request 2 "c", request 1 "d"]
    LawfulMonad (StateM (List String)) ∧ PartialEquivBEq Nat ∧
      (({} : Memo Nat String).answers requests).run [] =
        ([⟨"a", 1⟩, ⟨"a", 1⟩, ⟨"c", 2⟩, ⟨"d", 3⟩], ["a", "c", "d"]) := by
  intro request requests
  obtain ⟨-, -, -, hanswers⟩ := answers_by_blocks requests
  refine ⟨inferInstance, inferInstance, ?_⟩
  rw [hanswers]
  rfl

end AlertDetail.Memo
