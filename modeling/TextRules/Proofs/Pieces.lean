import Mathlib.Data.List.TakeWhile

namespace TextRules

/-!
# Pieces of a list

The parts of a list between separators, without the empty parts.  The words of an operand and the
numbers of a text are pieces, with different separators.

Cutting at a separator (`pieces_append_cons`) and a list without separators
(`pieces_of_forall_not`) are the two cases from which the pieces of a written list are found.
-/

section Pieces

variable {α : Type} {isSeparator : α → Bool} {xs piece : List α} {x : α}

/-- The parts of a list between its separators that are not empty. -/
def pieces (isSeparator : α → Bool) (xs : List α) : List (List α) :=
  (xs.splitOnP isSeparator).filter fun piece => !piece.isEmpty

@[simp] theorem pieces_nil : pieces isSeparator [] = [] := by
  rw [pieces, List.splitOnP_nil]
  rfl

/-- The pieces on both sides of a separator have nothing to do with each other. -/
theorem pieces_append_cons (hx : isSeparator x = true) (xs ys : List α) :
    pieces isSeparator (xs ++ x :: ys) = pieces isSeparator xs ++ pieces isSeparator ys := by
  rw [pieces, List.splitOnP_append_cons xs ys hx, List.filter_append]
  rfl

theorem pieces_cons_of_separator (hx : isSeparator x = true) (xs : List α) :
    pieces isSeparator (x :: xs) = pieces isSeparator xs := by
  simpa using pieces_append_cons hx [] xs

/-- Where nothing separates, everything is one piece. -/
theorem pieces_of_forall_not (hne : xs ≠ []) (h : ∀ x ∈ xs, isSeparator x = false) :
    pieces isSeparator xs = [xs] := by
  rw [pieces, List.splitOnP_eq_singleton h]
  simp [hne]

/-- Separators before a list add no piece. -/
theorem pieces_dropWhile (xs : List α) :
    pieces isSeparator (xs.dropWhile isSeparator) = pieces isSeparator xs := by
  induction xs with
  | nil => rfl
  | cons x rest ih =>
    cases hx : isSeparator x with
    | true => rw [List.dropWhile_cons_of_pos hx, ih, pieces_cons_of_separator hx]
    | false => rw [List.dropWhile_cons_of_neg (by simp [hx])]

/-- A list that does not start with a separator starts with its first piece. -/
theorem pieces_cons_of_not (hx : isSeparator x = false) (xs : List α) :
    pieces isSeparator (x :: xs) = (x :: xs.takeWhile fun y => !isSeparator y) ::
      pieces isSeparator (xs.dropWhile fun y => !isSeparator y) := by
  have hword : ∀ y ∈ x :: xs.takeWhile (fun y => !isSeparator y), isSeparator y = false := by
    intro y hy
    rcases List.mem_cons.mp hy with rfl | hy
    · exact hx
    · simpa using List.mem_takeWhile_imp hy
  have hxs := List.takeWhile_append_dropWhile (p := fun y => !isSeparator y) (l := xs)
  conv => lhs; rw [← hxs]
  cases hrest : xs.dropWhile fun y => !isSeparator y with
  | nil => rw [List.append_nil, pieces_of_forall_not (List.cons_ne_nil _ _) hword, pieces_nil]
  | cons y rest =>
    -- the first character that is left over separates
    have hy : isSeparator y = true := by
      have hhead := List.head?_dropWhile_not (fun y => !isSeparator y) xs
      simpa [hrest] using hhead
    rw [← List.cons_append, pieces_append_cons hy, pieces_cons_of_separator hy,
      pieces_of_forall_not (List.cons_ne_nil _ _) hword, List.singleton_append]

/-- A part between separators is found in the list and has no separator in it. -/
theorem of_mem_splitOnP (h : piece ∈ xs.splitOnP isSeparator) :
    ∀ y ∈ piece, y ∈ xs ∧ isSeparator y = false := by
  induction xs generalizing piece with
  | nil =>
    rw [List.splitOnP_nil, List.mem_singleton] at h
    simp [h]
  | cons x rest ih =>
    intro y hy
    rw [List.splitOnP_cons_eq_if_modifyHead] at h
    cases hx : isSeparator x with
    | true =>
      rw [if_pos hx, List.mem_cons] at h
      rcases h with rfl | h
      · simp at hy
      · obtain ⟨hmem, hnot⟩ := ih h y hy
        exact ⟨List.mem_cons_of_mem x hmem, hnot⟩
    | false =>
      obtain ⟨first, others, hsplit⟩ :=
        List.exists_cons_of_ne_nil (List.splitOnP_ne_nil isSeparator rest)
      rw [if_neg (by simp [hx]), hsplit, List.modifyHead_cons, List.mem_cons] at h
      rcases h with rfl | h
      · rcases List.mem_cons.mp hy with rfl | hy
        · exact ⟨List.mem_cons_self, hx⟩
        · obtain ⟨hmem, hnot⟩ := ih (hsplit ▸ List.mem_cons_self) y hy
          exact ⟨List.mem_cons_of_mem x hmem, hnot⟩
      · obtain ⟨hmem, hnot⟩ := ih (hsplit ▸ List.mem_cons_of_mem first h) y hy
        exact ⟨List.mem_cons_of_mem x hmem, hnot⟩

theorem of_mem_pieces (h : piece ∈ pieces isSeparator xs) :
    piece ≠ [] ∧ ∀ y ∈ piece, y ∈ xs ∧ isSeparator y = false := by
  obtain ⟨hpart, hne⟩ := List.mem_filter.mp h
  exact ⟨by simpa using hne, of_mem_splitOnP hpart⟩

/-! ### Pieces of lists with other members -/

/-- Where separators stay separators and nothing becomes one, the pieces stay where they are. -/
theorem pieces_map {f : α → α} (h : ∀ x, isSeparator (f x) = isSeparator x) (xs : List α) :
    pieces isSeparator (xs.map f) = (pieces isSeparator xs).map (List.map f) := by
  have hsplit : (xs.map f).splitOnP isSeparator =
      (xs.splitOnP isSeparator).map (List.map f) := by
    induction xs with
    | nil => rfl
    | cons x rest ih =>
      obtain ⟨first, others, hfirst⟩ :=
        List.exists_cons_of_ne_nil (List.splitOnP_ne_nil isSeparator rest)
      rw [List.map_cons, List.splitOnP_cons_eq_if_modifyHead, List.splitOnP_cons_eq_if_modifyHead,
        h, ih, hfirst]
      split <;> rfl
  have hempty : ((fun piece => !piece.isEmpty) ∘ List.map f) = fun piece : List α =>
      !piece.isEmpty := by
    funext piece
    simp
  rw [pieces, pieces, hsplit, List.filter_map, hempty]

/-- Lists with the same pieces are the same if they have the same separators in the same places. -/
theorem eq_of_pieces_eq {β : Type} {f : α → β}
    (hf : ∀ x y, f x = f y → isSeparator x = isSeparator y ∧ (isSeparator x = true → x = y))
    {xs ys : List α} (hmap : xs.map f = ys.map f)
    (h : pieces isSeparator xs = pieces isSeparator ys) : xs = ys := by
  match xs, ys with
  | [], [] => rfl
  | [], _ :: _ => cases hmap
  | _ :: _, [] => cases hmap
  | x :: xs, y :: ys =>
    rw [List.map_cons, List.map_cons, List.cons.injEq] at hmap
    obtain ⟨hseparator, hsame⟩ := hf x y hmap.1
    cases hx : isSeparator x with
    | true =>
      rw [pieces_cons_of_separator hx, pieces_cons_of_separator (hseparator ▸ hx)] at h
      rw [hsame hx, eq_of_pieces_eq hf hmap.2 h]
    | false =>
      -- the first pieces are the same, and so are the parts behind them
      rw [pieces_cons_of_not hx, pieces_cons_of_not (hseparator ▸ hx), List.cons.injEq,
        List.cons.injEq] at h
      obtain ⟨⟨rfl, htake⟩, hrest⟩ := h
      have hxs := List.takeWhile_append_dropWhile (p := fun y => !isSeparator y) (l := xs)
      have hys := List.takeWhile_append_dropWhile (p := fun y => !isSeparator y) (l := ys)
      have hdrop : (xs.dropWhile fun y => !isSeparator y).map f =
          (ys.dropWhile fun y => !isSeparator y).map f := by
        have hall := hmap.2
        rw [← hxs, ← hys, List.map_append, List.map_append, htake] at hall
        exact List.append_cancel_left hall
      have hshorter := (List.dropWhile_suffix (l := xs) fun y => !isSeparator y).length_le
      rw [← hxs, ← hys, htake, eq_of_pieces_eq hf hdrop hrest]
termination_by xs.length

end Pieces

end TextRules
