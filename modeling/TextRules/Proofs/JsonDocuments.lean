import TextRules.Json.Draft
import TextRules.Proofs.JsonLexemes

namespace TextRules

/-!
# Written documents are read again

A value that was written is read back as the draft that shows it (`Json.draft`), under any layout
that breaks lines with blanks (`Json.Layout.Spaced`).  The reader goes by lexemes and keeps what is
around the place of reading in frames, so the statement is made for any frames: the lexemes of a
value lead from a place that awaits a value to the place after it (`Json.foldl_step_write`).
-/

namespace Json

/-! ### The draft of a value -/

mutual

/-- A value as the reader shows it. -/
def draft : Json → Draft
  | .bool b => .bool b
  | .int n => .num (.ofInt n)
  | .str s => .str (some s)
  | .arr items => .arr (draftItems items)
  | .obj members => .obj (draftMembers members)

/-- The items of an array as the reader shows them. -/
def draftItems : List Json → List Draft
  | [] => []
  | item :: rest => item.draft :: draftItems rest

/-- The members of an object as the reader shows them. -/
def draftMembers : List (String × Json) → List (Option String × Draft)
  | [] => []
  | (name, value) :: rest => (some name, value.draft) :: draftMembers rest

end

theorem draftItems_eq_map (items : List Json) : draftItems items = items.map draft := by
  induction items with
  | nil => rfl
  | cons item rest ih => rw [draftItems, ih, List.map_cons]

/-! ### Layouts -/

/-- A layout that breaks lines with blanks, and puts nothing but blanks behind the colon after a
    name. -/
structure Layout.Spaced (layout : Layout) : Prop where
  lineBreak : ∀ depth, ∀ c ∈ layout.lineBreak depth, isSpace c = true
  colon : ∃ spaces, layout.colon = ':' :: spaces ∧ ∀ c ∈ spaces, isSpace c = true

theorem Layout.compact_spaced : Layout.compact.Spaced where
  lineBreak _ _ hc := by cases hc
  colon := ⟨[], rfl, by simp⟩

theorem Layout.indented_spaced : Layout.indented.Spaced where
  lineBreak depth c hc := by
    rcases List.mem_cons.mp hc with rfl | hc
    · decide
    · rw [List.eq_of_mem_replicate hc]
      decide
  colon := ⟨[' '], rfl, by simp [isSpace]⟩

/-! ### Places -/

/-- A value may come at this place, and the frames will then be around it. -/
def Place.Awaits (frames : List Frame) (p : Place) : Prop :=
  p = .nextValue frames ∨ ∃ outer, p = .firstItem outer ∧ frames = .items [] :: outer

theorem Place.step_of_awaits {frames : List Frame} {p : Place} (h : p.Awaits frames) {l : Lexeme}
    (hl : l ≠ .mark ']') : p.step l = startValue frames l := by
  obtain rfl | ⟨outer, rfl, rfl⟩ := h
  · rfl
  · exact Place.step.eq_3 l outer hl

/-! ### Reading what was written -/

variable {layout : Layout} {depth : Nat} {spaces rest : List Char}

/-- Whatever follows an item, the item ends there. -/
theorem ends_writeItems (items : List Json) (hspaces : ∀ c ∈ spaces, isSpace c = true) :
    Ends (writeItems layout depth items ++ (spaces ++ ']' :: rest)) := by
  cases items with
  | nil =>
    have hclosed : Ends (']' :: rest) := ends_mark (by decide) rest
    rw [writeItems, List.nil_append]
    exact ends_spaces_append hspaces hclosed
  | cons item items => exact ends_mark (by decide) _

theorem ends_writeMembers (members : List (String × Json))
    (hspaces : ∀ c ∈ spaces, isSpace c = true) :
    Ends (writeMembers layout depth members ++ (spaces ++ '\x7d' :: rest)) := by
  cases members with
  | nil =>
    have hclosed : Ends ('\x7d' :: rest) := ends_mark (by decide) rest
    rw [writeMembers, List.nil_append]
    exact ends_spaces_append hspaces hclosed
  | cons member members => exact ends_mark (by decide) _

mutual

/-- **A written value** leads from a place that awaits one to the place after it. -/
theorem foldl_step_write (hlayout : layout.Spaced) (j : Json) (depth : Nat) {p : Place}
    {frames : List Frame} (hp : p.Awaits frames) {rest : List Char} (hrest : Ends rest) :
    (lexemes (j.write layout depth ++ rest)).foldl Place.step p =
      (lexemes rest).foldl Place.step (.after frames j.draft) := by
  match j with
  | .bool b =>
    rw [lexemes_bool, List.foldl_cons, Place.step_of_awaits hp (by simp)]
    rfl
  | .int n =>
    rw [write, lexemes_integer n hrest, List.foldl_cons, Place.step_of_awaits hp (by simp)]
    rfl
  | .str s =>
    rw [write, lexemes_quote, List.foldl_cons, Place.step_of_awaits hp (by simp)]
    rfl
  | .arr [] =>
    rw [write, List.cons_append, List.cons_append, lexemes_mark (by decide),
      lexemes_mark (by decide), List.foldl_cons, List.foldl_cons,
      Place.step_of_awaits hp (by simp)]
    rfl
  | .arr (item :: items) =>
    -- a closing bracket could stand here as well, so the first item has a place of its own
    have hopened : (Place.firstItem frames).Awaits (.items [] :: frames) := .inr ⟨frames, rfl, rfl⟩
    have hclosed := hlayout.lineBreak depth
    simp only [write, List.cons_append, List.append_assoc, List.nil_append]
    rw [lexemes_mark (by decide), List.foldl_cons, Place.step_of_awaits hp (by simp),
      lexemes_spaces_append (hlayout.lineBreak (depth + 1)), Place.startValue,
      foldl_step_write hlayout item (depth + 1) hopened (ends_writeItems items hclosed),
      foldl_step_writeItems hlayout items (depth + 1) hclosed]
    rfl
  | .obj [] =>
    rw [write, List.cons_append, List.cons_append, lexemes_mark (by decide),
      lexemes_mark (by decide), List.foldl_cons, List.foldl_cons,
      Place.step_of_awaits hp (by simp)]
    rfl
  | .obj ((name, value) :: members) =>
    obtain ⟨spaces, hcolon, hspaces⟩ := hlayout.colon
    have hclosed := hlayout.lineBreak depth
    simp only [write, List.cons_append, List.append_assoc, List.nil_append, hcolon]
    rw [lexemes_mark (by decide), List.foldl_cons, Place.step_of_awaits hp (by simp),
      lexemes_spaces_append (hlayout.lineBreak (depth + 1)), lexemes_quote,
      lexemes_mark (by decide), lexemes_spaces_append hspaces, List.foldl_cons, List.foldl_cons]
    show List.foldl Place.step (.nextValue (.members [] (some name) :: frames)) _ = _
    rw [foldl_step_write hlayout value (depth + 1) (.inl rfl) (ends_writeMembers members hclosed),
      foldl_step_writeMembers hlayout members (depth + 1) hclosed]
    rfl

theorem foldl_step_writeItems (hlayout : layout.Spaced) (items : List Json) (depth : Nat)
    {spaces : List Char} (hspaces : ∀ c ∈ spaces, isSpace c = true) {frames : List Frame}
    {before : List Draft} {value : Draft} {rest : List Char} :
    -- what has been read is the finished value and, last one first, the items before it
    (lexemes (writeItems layout depth items ++ (spaces ++ ']' :: rest))).foldl Place.step
        (.after (.items before :: frames) value) =
      (lexemes rest).foldl Place.step
        (.after frames (.arr (before.reverse ++ value :: draftItems items))) := by
  match items with
  | [] =>
    rw [writeItems, List.nil_append, lexemes_spaces_append hspaces, lexemes_mark (by decide),
      List.foldl_cons]
    show List.foldl Place.step (.after frames (.arr (value :: before).reverse)) _ = _
    rw [List.reverse_cons]
    rfl
  | item :: items =>
    simp only [writeItems, List.cons_append, List.append_assoc]
    rw [lexemes_mark (by decide), List.foldl_cons,
      lexemes_spaces_append (hlayout.lineBreak depth)]
    show List.foldl Place.step (.nextValue (.items (value :: before) :: frames)) _ = _
    rw [foldl_step_write hlayout item depth (.inl rfl) (ends_writeItems items hspaces),
      foldl_step_writeItems hlayout items depth hspaces, List.reverse_cons, List.append_assoc]
    rfl

theorem foldl_step_writeMembers (hlayout : layout.Spaced) (members : List (String × Json))
    (depth : Nat) {spaces : List Char} (hspaces : ∀ c ∈ spaces, isSpace c = true)
    {frames : List Frame} {before : List (Option String × Draft)} {name : Option String}
    {value : Draft} {rest : List Char} :
    (lexemes (writeMembers layout depth members ++ (spaces ++ '\x7d' :: rest))).foldl Place.step
        (.after (.members before name :: frames) value) =
      (lexemes rest).foldl Place.step
        (.after frames (.obj (before.reverse ++ (name, value) :: draftMembers members))) := by
  match members with
  | [] =>
    rw [writeMembers, List.nil_append, lexemes_spaces_append hspaces, lexemes_mark (by decide),
      List.foldl_cons]
    show List.foldl Place.step (.after frames (.obj ((name, value) :: before).reverse)) _ = _
    rw [List.reverse_cons]
    rfl
  | (next, content) :: members =>
    obtain ⟨blanks, hcolon, hblanks⟩ := hlayout.colon
    simp only [writeMembers, List.cons_append, List.append_assoc, hcolon]
    rw [lexemes_mark (by decide), List.foldl_cons,
      lexemes_spaces_append (hlayout.lineBreak depth), lexemes_quote, lexemes_mark (by decide),
      lexemes_spaces_append hblanks, List.foldl_cons, List.foldl_cons]
    show List.foldl Place.step
      (.nextValue (.members ((name, value) :: before) (some next) :: frames)) _ = _
    rw [foldl_step_write hlayout content depth (.inl rfl) (ends_writeMembers members hspaces),
      foldl_step_writeMembers hlayout members depth hspaces, List.reverse_cons, List.append_assoc]
    rfl

end

/-- **A written document is read again**, to its end. -/
theorem ofText_write (hlayout : layout.Spaced) (j : Json) :
    Document.ofText (String.ofList (j.write layout 0)) = ⟨j.draft, true⟩ := by
  have hread := foldl_step_write hlayout j 0 (p := .nextValue []) (.inl rfl) ends_nil
  rw [List.append_nil] at hread
  rw [Document.ofText, String.toList_ofList, hread, lexemes_nil]
  rfl

theorem ofText_compact (j : Json) : Document.ofText j.compact = ⟨j.draft, true⟩ :=
  ofText_write Layout.compact_spaced j

theorem ofText_indented (j : Json) : Document.ofText j.indented = ⟨j.draft, true⟩ :=
  ofText_write Layout.indented_spaced j

end Json

end TextRules
