/-!
# Blank characters and trimming

`isBlank` is the class of white space of the Unicode character database together with the four
information separators. `strip` takes the blanks off both ends; a text is called trimmed if that
changes nothing.
-/

namespace ParticipantDirectory.Text

/-- White space, with the information separators U+001C to U+001F. -/
def isBlank (c : Char) : Bool :=
  let n := c.toNat
  (0x09 ≤ n && n ≤ 0x0D) || (0x1C ≤ n && n ≤ 0x20) || n == 0x85 || n == 0xA0 || n == 0x1680 ||
    (0x2000 ≤ n && n ≤ 0x200A) || n == 0x2028 || n == 0x2029 || n == 0x202F || n == 0x205F || n == 0x3000

/-- The text after its leading characters of the class `p`. -/
def stripLeft (p : Char → Bool) (s : List Char) : List Char :=
  s.dropWhile p

/-- The text before its trailing characters of the class `p`. -/
def stripRight (p : Char → Bool) (s : List Char) : List Char :=
  (s.reverse.dropWhile p).reverse

/-- The text without the characters of the class `p` at its two ends. -/
def stripWhere (p : Char → Bool) (s : List Char) : List Char :=
  stripRight p (stripLeft p s)

/-- The text without the blanks at its two ends. -/
def strip (s : List Char) : List Char :=
  stripWhere isBlank s

/-- The string without the blanks at its two ends. -/
def trim (s : String) : String :=
  String.ofList (strip s.toList)

/-- A trimmed text neither begins nor ends with a blank, and is then left alone. -/
theorem strip_eq_self {s : List Char} (hl : ∀ c ∈ s.head?, isBlank c = false)
    (hr : ∀ c ∈ s.getLast?, isBlank c = false) : strip s = s := by
  have h : s.dropWhile isBlank = s := by
    cases s with
    | nil => rfl
    | cons c r => simp [hl c (by simp)]
  rw [strip, stripWhere, stripLeft, h, stripRight]
  rw [← List.head?_reverse] at hr
  generalize hs : s.reverse = t at hr ⊢
  cases t with
  | nil => simpa using hs
  | cons c r => rw [List.dropWhile_cons, if_neg (by simp [hr c (by simp)]), ← hs, List.reverse_reverse]

end ParticipantDirectory.Text
