import Till.Text.Range

/-!
# Blanks, control characters and the order of texts

* `Text.isBlank` : the characters with the Unicode property White_Space;
* `Text.trim` : a text without the blanks at its ends;
* `Text.isControl` : the control characters, category Cc;
* `Text.before` : the order of texts by code points, which is the order of their UTF-8 bytes.
-/

namespace Till

namespace Text

/-- The ranges of White_Space characters. -/
def blankRanges : List (Nat × Nat) := [
  (9, 13), (32, 32), (133, 133), (160, 160), (5760, 5760), (8192, 8202), (8232, 8233),
  (8239, 8239), (8287, 8287), (12288, 12288)]

/-- A White_Space character. -/
def isBlank (c : Char) : Bool := inRanges blankRanges c

/-- A control character. -/
def isControl (c : Char) : Bool := decide (c.toNat < 32) || (decide (127 ≤ c.toNat) && decide (c.toNat < 160))

/-- A text of blanks only. -/
def isBlankText (s : String) : Bool := s.toList.all isBlank

/-- The characters without the blanks at the end. -/
def dropBlankEnd (cs : List Char) : List Char := (cs.reverse.dropWhile isBlank).reverse

/-- The text without the blanks at its ends. -/
def trim (s : String) : String := String.ofList (dropBlankEnd (s.toList.dropWhile isBlank))

/-- Whether one sequence of characters comes before another, by code points. -/
def charsBefore : List Char → List Char → Bool
  | _, [] => false
  | [], _ :: _ => true
  | a :: as, b :: bs =>
    if a.toNat < b.toNat then true
    else if b.toNat < a.toNat then false
    else charsBefore as bs

/-- Whether one text comes before another, by code points. -/
def before (s t : String) : Bool := charsBefore s.toList t.toList

/-- Whether a text begins with another. -/
def beginsWith (start : String) (s : String) : Bool := start.toList.isPrefixOf s.toList

/-- Texts in ascending order without repetition. -/
def sortedDistinct (texts : List String) : List String :=
  (texts.mergeSort fun s t => !before t s).eraseReps

end Text

end Till
