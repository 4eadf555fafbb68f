namespace ApiGraph.Text

/-! Taking text apart. Names, paths and references are cut as lists of characters; a `String` is
only the form in which the finished pieces are kept. -/

/-- What follows `lead` in a text that begins with it. -/
def after? : List Char → List Char → Option (List Char)
  | [], text => some text
  | _ :: _, [] => none
  | expected :: lead, found :: text => if expected = found then after? lead text else none

@[simp] theorem after?_append (lead text : List Char) : after? lead (lead ++ text) = some text := by
  induction lead with
  | nil => rfl
  | cons head lead induction => simp [after?, induction]

theorem after?_eq_some_iff {lead text rest : List Char} :
    after? lead text = some rest ↔ text = lead ++ rest := by
  constructor
  · intro found
    induction lead generalizing text with
    | nil => simpa [after?] using found
    | cons head lead induction =>
        cases text with
        | nil => simp [after?] at found
        | cons other text =>
            by_cases equal : head = other
            · subst equal
              simp only [after?, if_true] at found
              simp [induction found]
            · simp [after?, equal] at found
  · rintro rfl
    exact after?_append lead rest

/-- The pieces of a text between the separators, empty ones included. -/
def pieces (separator : Char) : List Char → List (List Char)
  | [] => [[]]
  | c :: rest =>
      if c = separator then [] :: pieces separator rest
      else
        match pieces separator rest with
        | [] => [[c]]
        | piece :: others => (c :: piece) :: others

example : pieces '/' "/a//b".toList = ["".toList, "a".toList, "".toList, "b".toList] := by decide

theorem pieces_ne_nil (separator : Char) (text : List Char) : pieces separator text ≠ [] := by
  cases text with
  | nil => simp [pieces]
  | cons head rest =>
      unfold pieces
      split
      · simp
      · split <;> simp

/-- The text after the last separator, or all of it where there is none. -/
def lastPiece (separator : Char) (text : List Char) : List Char :=
  (pieces separator text).getLast (pieces_ne_nil separator text)

/-- The text before the first separator, or all of it where there is none. -/
def firstPiece (separator : Char) (text : List Char) : List Char :=
  text.takeWhile (· != separator)

/-- The characters that Unicode calls white space. -/
def isBlank (c : Char) : Bool :=
  let code := c.toNat
  (9 ≤ code && code ≤ 13) || code == 0x20 || code == 0x85 || code == 0xA0 || code == 0x1680 ||
    (0x2000 ≤ code && code ≤ 0x200A) || code == 0x2028 || code == 0x2029 || code == 0x202F ||
    code == 0x205F || code == 0x3000

/-- A text without the characters of a class at its two ends. -/
def trim (blank : Char → Bool) (text : List Char) : List Char :=
  ((text.dropWhile blank).reverse.dropWhile blank).reverse

/-- The text with every occurrence of the pair `first second` replaced by one character. -/
def replacePair (first second replacement : Char) : List Char → List Char
  | [] => []
  | [c] => [c]
  | c :: next :: rest =>
      if c = first ∧ next = second then replacement :: replacePair first second replacement rest
      else c :: replacePair first second replacement (next :: rest)

example : replacePair '~' '1' '/' "a~1~~1b".toList = "a/~/b".toList := by decide

end ApiGraph.Text
