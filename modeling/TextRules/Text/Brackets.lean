namespace TextRules

/-!
# Balanced brackets

A text is balanced when no bracket closes that was not opened, and all that were opened are closed.
Only round brackets count.
-/

/-- The nesting depth after one more character, if no bracket closes outside of all others. -/
def depthAfter? (depth : Nat) (c : Char) : Option Nat :=
  if c = '(' then some (depth + 1)
  else if c = ')' then if depth = 0 then none else some (depth - 1)
  else some depth

/-- The nesting depth at the end of a text that starts at `depth`. -/
def depth? (depth : Nat) (text : List Char) : Option Nat := text.foldlM depthAfter? depth

/-- Whether the round brackets of a text are balanced. -/
def balanced (text : String) : Bool := depth? 0 text.toList == some 0

/-! ### Step by step -/

@[simp] theorem depth?_nil (depth : Nat) : depth? depth [] = some depth := rfl

theorem depth?_cons (depth : Nat) (c : Char) (rest : List Char) :
    depth? depth (c :: rest) = (depthAfter? depth c).bind (depth? · rest) := rfl

theorem depth?_append (depth : Nat) (text rest : List Char) :
    depth? depth (text ++ rest) = (depth? depth text).bind (depth? · rest) := by
  simp [depth?, List.foldlM_append, bind]

/-- Whether a character is a round bracket. -/
def isBracket (c : Char) : Bool := c == '(' || c == ')'

/-- Other characters do not count. -/
theorem depth?_filter_isBracket (depth : Nat) (text : List Char) :
    depth? depth (text.filter isBracket) = depth? depth text := by
  induction text generalizing depth with
  | nil => rfl
  | cons c rest ih =>
    rw [List.filter_cons, depth?_cons]
    by_cases hc : isBracket c = true
    · rw [if_pos hc, depth?_cons]
      cases depthAfter? depth c with
      | none => rfl
      | some next => exact ih next
    · have hsame : depthAfter? depth c = some depth := by
        simp only [isBracket, Bool.or_eq_true, beq_iff_eq, not_or] at hc
        rw [depthAfter?, if_neg hc.1, if_neg hc.2]
      rw [if_neg hc, ih, hsame, Option.bind_some]

theorem depth?_of_filter_eq_nil {text : List Char} (h : text.filter isBracket = [])
    (depth : Nat) : depth? depth text = some depth := by
  rw [← depth?_filter_isBracket, h, depth?_nil]

example : balanced "(()())" = true ∧ balanced "(()" = false ∧ balanced ")(" = false := by
  decide +kernel

end TextRules
