import Subscription.Text.CodeRange

/-!
# Blanks

The characters with the Unicode property White_Space, and cutting them off the ends of a text.
-/

namespace Subscription

/-- The code points with the property White_Space. -/
def blanks : CodeRanges :=
  [(0x0009, 0x000D), (0x0020, 0x0020), (0x0085, 0x0085), (0x00A0, 0x00A0), (0x1680, 0x1680),
   (0x2000, 0x200A), (0x2028, 0x2029), (0x202F, 0x202F), (0x205F, 0x205F), (0x3000, 0x3000)]

/-- Whether a character is a blank. -/
def isBlank (c : Char) : Bool := blanks.contains c

/-- The characters without the blanks in front. -/
def dropBlanks (chars : List Char) : List Char := chars.dropWhile isBlank

/-- The characters without the blanks at either end. -/
def trimBlanks (chars : List Char) : List Char :=
  (dropBlanks (dropBlanks chars).reverse).reverse

/-- A text without the blanks at either end. -/
def trimmed (text : String) : String := String.ofList (trimBlanks text.toList)

end Subscription
