namespace TextRules

/-!
# Cutting texts

A text is cut at each occurrence of a character, which goes into none of the parts.
-/

/-- The parts of a text between the occurrences of a character. -/
def splitAt (mark : Char) (text : List Char) : List (List Char) :=
  text.foldr
    (fun c parts =>
      if c = mark then [] :: parts
      else
        match parts with
        | [] => [[c]]
        | part :: parts => (c :: part) :: parts)
    [[]]

end TextRules
