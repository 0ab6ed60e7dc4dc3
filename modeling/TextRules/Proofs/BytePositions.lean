import Mathlib.Data.List.Chain
import TextRules.Proofs.Occurrences

namespace TextRules

/-!
# Searching by byte positions

Texts are kept in UTF-8, and a search can go on from a number of bytes just as well as from a
character.  A number of bytes may lie inside a character, though, and from there nothing would be
found.  This file repeats the search with byte positions and shows that it never gets there:

* `restFrom?_eq_some_iff` — which positions a search can go on from;
* `nextPosition?_eq_some`, `nextPosition?_eq_none` — one search, from such a position;
* `searchPositions_append`, `isChain_searchPositions` — all searches;
* `occurrences_counts_places` — what the number of occurrences is, and how the search gets to it.
-/

/-! ### The search -/

/-- The rest of a text from a byte on, if a character starts there or the text ends there. -/
def restFrom? (text : String) (position : Nat) : Option String :=
  if h : String.Pos.Raw.IsValid text ⟨position⟩ then
    some (text.sliceFrom (text.pos ⟨position⟩ h)).copy
  else none

/-- The number of bytes in front of the first place where a text stands in another one. -/
def offset? (needle text : String) : Option Nat :=
  (search? needle.toList text.toList).map fun found =>
    text.utf8ByteSize - (String.ofList found).utf8ByteSize

/-- Where to go on behind the first occurrence after `position`.  The next search starts behind the
    first character of the needle, so that occurrences may overlap. -/
def nextPosition? (needle text : String) (position : Nat) : Option Nat := do
  let first ← needle.toList.head?
  let rest ← restFrom? text position
  let offset ← offset? needle rest
  return position + offset + first.utf8Size

/-- There is a place behind the first part of a text. -/
theorem isValid_append (before rest : String) :
    String.Pos.Raw.IsValid (before ++ rest) ⟨before.utf8ByteSize⟩ :=
  String.Pos.Raw.isValid_append.mpr (.inl String.Pos.Raw.isValid_rawEndPos)

theorem restFrom?_append (before rest : String) :
    restFrom? (before ++ rest) before.utf8ByteSize = some rest := by
  have hvalid := isValid_append before rest
  have hsplits : ((before ++ rest).pos ⟨before.utf8ByteSize⟩ hvalid).Splits before rest :=
    String.Pos.splits_append_rawEndPos
  rw [restFrom?, dif_pos hvalid]
  exact congrArg some hsplits.copy_sliceFrom_eq

/-- A search can go on from the places between two parts of a text, and from nowhere else. -/
theorem restFrom?_eq_some_iff {text rest : String} {position : Nat} :
    restFrom? text position = some rest ↔
      ∃ before, text = before ++ rest ∧ position = before.utf8ByteSize := by
  constructor
  · intro h
    rw [restFrom?, Option.dite_none_right_eq_some] at h
    obtain ⟨hvalid, h⟩ := h
    have hsplits := String.Pos.splits (text.pos ⟨position⟩ hvalid)
    rw [Option.some.inj h] at hsplits
    exact ⟨_, hsplits.eq_append, congrArg String.Pos.Raw.byteIdx hsplits.offset_eq_rawEndPos⟩
  · rintro ⟨before, rfl, rfl⟩
    exact restFrom?_append before rest

/-- A search that succeeds goes on farther behind, and it started inside the text. -/
theorem lt_of_nextPosition? {needle text : String} {position next : Nat}
    (h : nextPosition? needle text position = some next) :
    position < next ∧ position ≤ text.utf8ByteSize := by
  simp only [nextPosition?, bind, Option.bind_eq_some_iff] at h
  obtain ⟨first, -, rest, hrest, offset, -, hnext⟩ := h
  obtain ⟨before, rfl, rfl⟩ := restFrom?_eq_some_iff.mp hrest
  -- at least the one character of the needle is passed
  have hsize := first.utf8Size_pos
  have hnext : before.utf8ByteSize + offset + first.utf8Size = next := Option.some.inj hnext
  rw [String.utf8ByteSize_append]
  omega

/-- The positions from which the search goes on after it has started at `position`, one for every
    occurrence that it finds. -/
def searchPositions (needle text : String) (position : Nat) : List Nat :=
  match _h : nextPosition? needle text position with
  | none => []
  | some next => next :: searchPositions needle text next
termination_by text.utf8ByteSize + 1 - position
decreasing_by
  have hbounds := lt_of_nextPosition? (by assumption)
  omega

/- From inside the second character nothing would be found. -/
example : nextPosition? "b" "aΣb" 2 = none ∧ nextPosition? "b" "aΣb" 3 = some 4 := by
  decide +kernel

/-! ### One search -/

/-- What a search finds is an end part of the text, and it starts with the needle. -/
theorem exists_skipped_of_search? {needle text found : List Char}
    (h : search? needle text = some found) :
    needle <+: found ∧ ∃ skipped, text = skipped ++ found := by
  induction text with
  | nil =>
    rw [search?, Option.ite_none_right_eq_some, List.isEmpty_iff] at h
    obtain ⟨rfl, h⟩ := h
    exact ⟨List.nil_prefix, [], Option.some.inj h⟩
  | cons c rest ih =>
    rw [search?] at h
    split at h
    next hc =>
      obtain rfl := Option.some.inj h
      exact ⟨List.isPrefixOf_iff_prefix.mp hc, [], rfl⟩
    next =>
      obtain ⟨hneedle, skipped, hskipped⟩ := ih h
      exact ⟨hneedle, c :: skipped, by rw [hskipped, List.cons_append]⟩

section NextPosition

variable {needle : String} {rest : List Char}

theorem nextPosition?_eq_none (before : String) (h : search? needle.toList rest = none) :
    nextPosition? needle (before ++ String.ofList rest) before.utf8ByteSize = none := by
  have hrest := restFrom?_append before (String.ofList rest)
  have hoffset : offset? needle (String.ofList rest) = none := by
    rw [offset?, String.toList_ofList, h, Option.map_none]
  rw [nextPosition?, hrest]
  simp only [bind, Option.bind_some, hoffset, Option.bind_none, Option.bind_fun_none]

/-- Behind what was skipped and one character more, the text goes on with the rest of what was
    found. -/
theorem nextPosition?_eq_some (before : String) (hne : needle ≠ "") {c : Char} {tail : List Char}
    (h : search? needle.toList rest = some (c :: tail)) :
    ∃ passed : String,
      before ++ String.ofList rest = passed ++ String.ofList tail ∧
      nextPosition? needle (before ++ String.ofList rest) before.utf8ByteSize =
        some passed.utf8ByteSize := by
  obtain ⟨hneedle, skipped, rfl⟩ := exists_skipped_of_search? h
  -- the needle starts with the character that is passed
  have hfirst : needle.toList.head? = some c := by
    obtain ⟨first, others, hfirst⟩ := List.exists_cons_of_ne_nil (l := needle.toList) (by simpa)
    rw [hfirst] at hneedle ⊢
    rw [List.head?_cons, (List.cons_prefix_cons.mp hneedle).1]
  have hoffset : offset? needle (String.ofList (skipped ++ c :: tail)) =
      some (String.ofList skipped).utf8ByteSize := by
    rw [offset?, String.toList_ofList, h, Option.map_some, String.ofList_append,
      String.utf8ByteSize_append, Nat.add_sub_cancel]
  have hrest := restFrom?_append before (String.ofList (skipped ++ c :: tail))
  refine ⟨before ++ String.ofList skipped ++ String.singleton c, ?_, ?_⟩
  · rw [← String.toList_inj]
    simp
  · rw [nextPosition?, hrest, hfirst]
    simp only [bind, Option.bind_some, hoffset, pure, String.utf8ByteSize_append,
      String.utf8ByteSize_singleton]

end NextPosition

/-! ### All searches -/

section SearchPositions

variable {needle text : String} {position next : Nat}

theorem searchPositions_of_eq_none (h : nextPosition? needle text position = none) :
    searchPositions needle text position = [] := by
  rw [searchPositions]
  split
  next => rfl
  next hsome => simp [h] at hsome

theorem searchPositions_of_eq_some (h : nextPosition? needle text position = some next) :
    searchPositions needle text position = next :: searchPositions needle text next := by
  rw [searchPositions]
  split
  next hnone => simp [h] at hnone
  next hsome => rw [Option.some.inj (hsome.symm.trans h)]

/-- Each search starts behind the one before it. -/
theorem isChain_searchPositions (needle text : String) (position : Nat) :
    (position :: searchPositions needle text position).IsChain (· < ·) := by
  fun_induction searchPositions needle text position with
  | case1 position => exact .singleton position
  | case2 position next h ih => exact .cons_cons (lt_of_nextPosition? h).1 ih

/-- From a place between two parts of a text, byte positions lead to as many occurrences as the
    characters of the second part, and never into the inside of a character. -/
theorem searchPositions_append (hne : needle ≠ "") (before : String) (rest : List Char) :
    (searchPositions needle (before ++ String.ofList rest) before.utf8ByteSize).length =
        countFrom needle.toList rest ∧
      ∀ p ∈ searchPositions needle (before ++ String.ofList rest) before.utf8ByteSize,
        String.Pos.Raw.IsValid (before ++ String.ofList rest) ⟨p⟩ := by
  -- the part that is left gets shorter with every search
  fun_induction countFrom needle.toList rest generalizing before with
  | case1 rest c tail h ih =>
    obtain ⟨passed, htext, hnext⟩ := nextPosition?_eq_some before hne h
    obtain ⟨hlength, hvalid⟩ := ih passed
    have hpassed := isValid_append passed (String.ofList tail)
    rw [searchPositions_of_eq_some hnext, htext]
    exact ⟨congrArg (· + 1) hlength, List.forall_mem_cons.mpr ⟨hpassed, hvalid⟩⟩
  | case2 rest h =>
    have hnone : search? needle.toList rest = none := by
      cases hsearch : search? needle.toList rest with
      | none => rfl
      | some found =>
        obtain ⟨c, tail, rfl, -⟩ := positions_of_search?_eq_some (by simpa using hne) hsearch
        exact absurd hsearch (h c tail)
    rw [searchPositions_of_eq_none (nextPosition?_eq_none before hnone)]
    exact ⟨rfl, List.forall_mem_nil _⟩

/-- Nothing is found for the empty text, which has no first character to go on behind. -/
theorem searchPositions_empty (text : String) (position : Nat) :
    searchPositions "" text position = [] :=
  searchPositions_of_eq_none rfl

end SearchPositions

/-- **The number of occurrences.** The empty text is taken to occur nowhere.  Any other text is
    counted once for each character of the searched text at which it stands, overlaps included, so
    there are no more occurrences than characters.  The search by byte positions finds all of them.
    Each of its steps goes farther behind, so it ends, and each starts where a character starts or
    the text ends. -/
theorem occurrences_counts_places (needle text : String) :
    occurrences "" text = 0 ∧
    (needle ≠ "" → occurrences needle text = positions needle.toList text.toList) ∧
    occurrences needle text ≤ text.length ∧
    (searchPositions needle text 0).length = occurrences needle text ∧
    (0 :: searchPositions needle text 0).IsChain (· < ·) ∧
    ∀ p ∈ 0 :: searchPositions needle text 0, String.Pos.Raw.IsValid text ⟨p⟩ := by
  have hstart : String.Pos.Raw.IsValid text ⟨0⟩ := String.Pos.Raw.isValid_zero
  by_cases hne : needle = ""
  · subst hne
    rw [searchPositions_empty]
    exact ⟨rfl, fun hne => absurd rfl hne, Nat.zero_le _, rfl, .singleton 0,
      List.forall_mem_singleton.mpr hstart⟩
  · have hpositions := occurrences_eq_positions hne text
    have hle := positions_le_length needle.toList text.toList
    -- at the start nothing of the text has been passed yet
    obtain ⟨hlength, hvalid⟩ := searchPositions_append hne "" text.toList
    rw [String.empty_append, String.ofList_toList, String.utf8ByteSize_empty] at hlength hvalid
    refine ⟨rfl, fun _ => hpositions, ?_, ?_, isChain_searchPositions needle text 0,
      List.forall_mem_cons.mpr ⟨hstart, hvalid⟩⟩
    · rwa [hpositions, ← String.length_toList]
    · rw [hlength, occurrences, if_neg (by simpa using hne)]

theorem occurrences_counts_places_of_overlapping :
    occurrences "" "ΣaΣaΣ" = 0 ∧ occurrences "ΣaΣ" "ΣaΣaΣ" = 2 ∧ "ΣaΣ" ≠ "" ∧
    searchPositions "ΣaΣ" "ΣaΣaΣ" 0 = [2, 5] ∧
    ∀ p ∈ 0 :: searchPositions "ΣaΣ" "ΣaΣaΣ" 0, String.Pos.Raw.IsValid "ΣaΣaΣ" ⟨p⟩ := by
  have hne : "ΣaΣ" ≠ "" := by decide
  obtain ⟨hempty, hplaces, -, -, -, hvalid⟩ := occurrences_counts_places "ΣaΣ" "ΣaΣaΣ"
  refine ⟨hempty, ?_, hne, ?_, hvalid⟩
  · rw [hplaces hne]
    decide +kernel
  · have hfirst : nextPosition? "ΣaΣ" "ΣaΣaΣ" 0 = some 2 := by decide +kernel
    have hsecond : nextPosition? "ΣaΣ" "ΣaΣaΣ" 2 = some 5 := by decide +kernel
    have hlast : nextPosition? "ΣaΣ" "ΣaΣaΣ" 5 = none := by decide +kernel
    rw [searchPositions_of_eq_some hfirst, searchPositions_of_eq_some hsecond,
      searchPositions_of_eq_none hlast]

end TextRules
