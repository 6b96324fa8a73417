/-
  Paragraphs.

  A text is set in lines of limited width.

  1. Runs of ASCII blanks become single spaces, and blanks at both ends go (`spaced`).
  2. The text is cut into the pieces between which a line may end (`pieces`): the spaces, and what
     stands between them.  A word is also cut behind a hyphen between letters and on both sides of a
     dash of two or more hyphens.
  3. Each line takes as many pieces as fit (`nextLine`).  A piece that is wider than a whole line is
     parted where the line is full, or behind the last hyphen before that.
  4. A blank piece is left out at the end of a line, and at the start of every line but the first.
     At each place it is only one, and it need not be a space: a word may consist of blanks that are
     not ASCII.

  Since runs of blanks count as one, a text that is given by its runs can be narrowed before it is
  written out, and its paragraph stays the same (`paragraph_narrowed`).
-/
import PartProgram.Text.Alphanumeric
import PartProgram.Text.Run

namespace PartProgram.Text

/-! ## Pieces -/

/-- Is the character one of the ASCII blanks that part words? -/
def isAsciiBlank (c : CodePoint) : Bool := c == ' ' || (0x09 ≤ c.toNat && c.toNat ≤ 0x0d)

/-- The words of a text between ASCII blanks. -/
def asciiWords (t : Text) : List Text :=
  (t.splitOnP isAsciiBlank).filter fun word => !word.isEmpty

/-- The text with single spaces for all runs of ASCII blanks, and without blanks at its ends. -/
def spaced (t : Text) : Text := trim (joined [' '] (asciiWords t))

/-- Can the character stand before a dash? -/
def isDashable (c : CodePoint) : Bool := isNameChar c || "!\x22\x27&.,?".toText.contains c

/-- Do two letters come next, perhaps with a hyphen between them? -/
def twoLetters : Text → Bool
  | a :: '-' :: b :: _ => isNameLetter a && isNameLetter b
  | a :: b :: _ => isNameLetter a && isNameLetter b
  | _ => false

/-- May a word be parted behind a hyphen, with the given characters before the hyphen (nearest
    first) and after it?  There are two letters on each side. -/
def mayPart (before after : Text) : Bool := twoLetters before && twoLetters after

/-- Does a dash between words come next? -/
def atDash (before after : Text) : Bool :=
  let dash := after.takeWhile (· == ('-' : CodePoint))
  2 ≤ dash.length && before.head?.any isDashable && (after.drop dash.length).head?.any isNameChar

/-- The pieces of a word.  `before` is the part of the word that lies behind, and `piece` the piece
    so far, both with the last character first; `dash` tells that this piece is a dash. -/
def wordPieces (before piece : Text) (dash : Bool) : Text → List Text
  | [] => if piece.isEmpty then [] else [piece.reverse]
  | c :: rest =>
    if dash then
      if c = '-' then wordPieces (c :: before) (c :: piece) true rest
      else piece.reverse :: wordPieces (c :: before) [c] false rest
    else if atDash before (c :: rest) then
      if piece.isEmpty then wordPieces (c :: before) [c] true rest
      else piece.reverse :: wordPieces (c :: before) [c] true rest
    else if c = '-' && !piece.isEmpty && mayPart before rest then
      (c :: piece).reverse :: wordPieces (c :: before) [] false rest
    else wordPieces (c :: before) (c :: piece) false rest

/-- The pieces of a text with single spaces between its words. -/
def pieces (t : Text) : List Text :=
  ((t.splitOn (' ' : CodePoint)).map (wordPieces [] [] false)).intersperse [([' '] : Text)] |>.flatten

/-! ## Lines -/

/-- Where to part a piece that is wider than a line, with so much room left. -/
def partAt (room : Nat) (piece : Text) : Nat :=
  let head := piece.take room
  let behindHyphen := head.length - (head.reverse.takeWhile (· != ('-' : CodePoint))).length
  if 1 < behindHyphen && (head.take (behindHyphen - 1)).any (· != ('-' : CodePoint)) then behindHyphen
  else room

/-- Has the text at most so many characters?  No more of them than that are counted. -/
def isWithin (room : Nat) (t : Text) : Bool := (t.drop room).isEmpty

theorem isWithin_iff {room : Nat} {t : Text} : isWithin room t = true ↔ t.length ≤ room := by
  simp [isWithin, List.drop_eq_nil_iff]

/-- The pieces in front that fit into so much room, and the others. -/
def fitting (room : Nat) : List Text → List Text × List Text
  | [] => ([], [])
  | piece :: rest =>
    if isWithin room piece then
      (piece :: (fitting (room - piece.length) rest).1, (fitting (room - piece.length) rest).2)
    else ([], piece :: rest)

/-- The pieces of the next line, and those that are left for later ones. -/
def nextLine (width : Nat) (pieces : List Text) : List Text × List Text :=
  match fitting width pieces with
  | (line, []) => (line, [])
  | (line, piece :: rest) =>
    if isWithin width piece then (line, piece :: rest)
    else
      let place := partAt (width - line.flatten.length) piece
      (line ++ [piece.take place], piece.drop place :: rest)

/-- A measure of what is left to be set: every character and every piece counts. -/
def weight (pieces : List Text) : Nat := pieces.foldr (fun piece count => piece.length + 1 + count) 0

theorem weight_cons (piece : Text) (rest : List Text) :
    weight (piece :: rest) = piece.length + 1 + weight rest := rfl

/-- What fits and what does not are together the pieces. -/
theorem weight_fitting (room : Nat) (pieces : List Text) :
    weight (fitting room pieces).1 + weight (fitting room pieces).2 = weight pieces := by
  induction pieces generalizing room with
  | nil => rfl
  | cons piece rest ih =>
    unfold fitting
    split
    · simp only [weight_cons]
      have := ih (room - piece.length)
      omega
    · simp [weight]

/-- If the first piece fits, the line is not empty. -/
theorem weight_fitting_pos {room : Nat} {piece : Text} (rest : List Text)
    (h : piece.length ≤ room) : 0 < weight (fitting room (piece :: rest)).1 := by
  simp only [fitting, isWithin_iff.mpr h, if_true, weight_cons]
  omega

/-- Nothing fits if the first piece does not. -/
theorem fitting_of_lt {room : Nat} {piece : Text} {rest : List Text} (h : room < piece.length) :
    fitting room (piece :: rest) = ([], piece :: rest) := by
  simp [fitting, isWithin_iff, Nat.not_le.mpr h]

/-- With some room left, some of the piece goes into it. -/
theorem partAt_pos {room : Nat} (piece : Text) (h : 0 < room) : 0 < partAt room piece := by
  simp only [partAt]
  split
  · rename_i both
    simp only [Bool.and_eq_true, decide_eq_true_eq] at both
    omega
  · exact h

/-- Every line takes something away from what is left. -/
theorem weight_nextLine_lt {width : Nat} (h : 0 < width) (piece : Text) (rest : List Text) :
    weight (nextLine width (piece :: rest)).2 < weight (piece :: rest) := by
  by_cases fits : piece.length ≤ width
  · have total := weight_fitting width (piece :: rest)
    have taken := weight_fitting_pos rest fits
    unfold nextLine
    split
    · rename_i line e
      rw [e] at total taken
      simp only at total taken ⊢
      omega
    · rename_i line next others e
      rw [e] at total taken
      simp only [weight_cons] at total taken ⊢
      split
      · simp only [weight_cons]
        omega
      · simp only [weight_cons, List.length_drop]
        omega
  · have wide : width < piece.length := Nat.lt_of_not_le fits
    have some_goes := partAt_pos piece h
    simp only [nextLine, fitting_of_lt wide, isWithin_iff, fits, if_false, List.flatten_nil,
      List.length_nil, Nat.sub_zero, weight_cons, List.length_drop]
    omega

/-- Is a piece nothing but blanks? -/
def isBlankPiece (piece : Text) : Bool := piece.all isBlank

/-- The pieces without the first one, if that one is blank and does not open the first line. -/
def opening (first : Bool) : List Text → List Text
  | [] => []
  | piece :: rest => if !first && isBlankPiece piece then rest else piece :: rest

/-- The pieces of a line without the last one, if that one is blank. -/
def closing (line : List Text) : List Text :=
  if line.getLast?.any isBlankPiece then line.dropLast else line

/-- A line takes something away whether or not a blank is left out before it. -/
theorem weight_nextLine_opening_lt {width : Nat} (h : 0 < width) (first : Bool) (piece : Text)
    (rest : List Text) :
    weight (nextLine width (opening first (piece :: rest))).2 < weight (piece :: rest) := by
  simp only [opening]
  split
  · cases rest with
    | nil => simp [nextLine, fitting, weight]
    | cons next others =>
      have := weight_nextLine_lt h next others
      rw [weight_cons piece]
      omega
  · exact weight_nextLine_lt h piece rest

/-- The lines of the pieces, of at most `extra + 1` characters each; `first` tells that there is no
    line yet. -/
def setLines (extra : Nat) (first : Bool) : List Text → List Text
  | [] => []
  | piece :: rest =>
    let next := nextLine (extra + 1) (opening first (piece :: rest))
    let line := closing next.1
    if line.isEmpty then setLines extra first next.2
    else line.flatten :: setLines extra false next.2
termination_by pieces => weight pieces
decreasing_by all_goals exact weight_nextLine_opening_lt (Nat.succ_pos _) first piece rest

/-- The text in lines of at most the given width, or of one character if that is zero. -/
def paragraph (width : Nat) (t : Text) : List Text := setLines (width - 1) true (pieces (spaced t))

/-! ## Narrowed runs -/

/-- A run with one blank for many. -/
def narrowed : Run → Run
  | .copies c count => if isAsciiBlank c then .copies c (min count 1) else .copies c count
  | run => run

/-- A second blank behind a blank changes neither the word before it nor the words after it. -/
theorem splitOnP_blank_blank (front rest : Text) {c : CodePoint} (h : isAsciiBlank c = true) :
    ∃ head tail tail', (front ++ c :: c :: rest).splitOnP isAsciiBlank = head :: tail ∧
      (front ++ c :: rest).splitOnP isAsciiBlank = head :: tail' ∧
      (tail.filter fun word => !word.isEmpty) = (tail'.filter fun word => !word.isEmpty) := by
  induction front with
  | nil =>
    refine ⟨[], [] :: rest.splitOnP isAsciiBlank, rest.splitOnP isAsciiBlank, ?_, ?_, ?_⟩
    · simp [List.splitOnP_cons_eq_if_modifyHead, h]
    · simp [List.splitOnP_cons_eq_if_modifyHead, h]
    · simp
  | cons x front ih =>
    obtain ⟨head, tail, tail', e, e', same⟩ := ih
    by_cases blank : isAsciiBlank x = true
    · refine ⟨[], head :: tail, head :: tail', ?_, ?_, ?_⟩
      · simp [List.splitOnP_cons_eq_if_modifyHead, blank, e]
      · simp [List.splitOnP_cons_eq_if_modifyHead, blank, e']
      · simp [List.filter_cons, same]
    · refine ⟨x :: head, tail, tail', ?_, ?_, same⟩
      · simp [List.splitOnP_cons_eq_if_modifyHead, blank, e]
      · simp [List.splitOnP_cons_eq_if_modifyHead, blank, e']

/-- Many blanks part words as one does. -/
theorem asciiWords_replicate (front rest : Text) {c : CodePoint} (h : isAsciiBlank c = true)
    (more : Nat) :
    asciiWords (front ++ (List.replicate (more + 1) c ++ rest)) =
      asciiWords (front ++ c :: rest) := by
  induction more with
  | zero => simp
  | succ more ih =>
    rw [← ih]
    obtain ⟨head, tail, tail', e, e', same⟩ :=
      splitOnP_blank_blank front (List.replicate more c ++ rest) h
    simp only [asciiWords, List.replicate_succ, List.cons_append, e, e', List.filter_cons, same]

/-- Narrowing runs does not change the words. -/
theorem asciiWords_narrowed (front : Text) (runs : List Run) :
    asciiWords (front ++ Run.expand (runs.map narrowed)) =
      asciiWords (front ++ Run.expand runs) := by
  induction runs generalizing front with
  | nil => rfl
  | cons run rest ih =>
    have keep (t : Text) : asciiWords (front ++ (t ++ Run.expand (rest.map narrowed))) =
        asciiWords (front ++ (t ++ Run.expand rest)) := by
      have := ih (front ++ t)
      simpa only [List.append_assoc] using this
    simp only [List.map_cons, Run.expand_cons]
    cases run with
    | text t => exact keep t
    | copies c count =>
      by_cases blank : isAsciiBlank c = true
      · cases count with
        | zero => simpa [narrowed, blank, Run.chars] using keep []
        | succ more =>
          have one := keep [c]
          rw [Run.chars, asciiWords_replicate front _ blank more]
          simpa [narrowed, blank, Run.chars] using one
      · simpa [narrowed, blank, Run.chars] using keep (List.replicate count c)

/-- The paragraph of a text can be set from its narrowed runs. -/
theorem paragraph_narrowed (width : Nat) (runs : List Run) :
    paragraph width (Run.expand (runs.map narrowed)) = paragraph width (Run.expand runs) := by
  have := asciiWords_narrowed [] runs
  simp only [List.nil_append] at this
  simp only [paragraph, spaced, this]

end PartProgram.Text
