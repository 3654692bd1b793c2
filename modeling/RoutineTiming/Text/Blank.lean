/-!
# Blanks around a text

The blank characters are those with the Unicode property `White_Space`. A text is trimmed by
removing the blanks at both ends.

## Main definitions

* `isBlank` : the character has the property.
* `trim` : the text without blanks at either end.
-/

namespace RoutineTiming

/-- The character has the Unicode property `White_Space`. -/
def isBlank (c : Char) : Bool :=
  let n := c.toNat
  (9 ≤ n && n ≤ 13) || n == 0x20 || n == 0x85 || n == 0xA0 || n == 0x1680 ||
    (0x2000 ≤ n && n ≤ 0x200A) || n == 0x2028 || n == 0x2029 || n == 0x202F || n == 0x205F ||
    n == 0x3000

/-- The list without its longest end of elements that satisfy the condition. -/
def dropTrailing {α : Type} (condition : α → Bool) (xs : List α) : List α :=
  (xs.reverse.dropWhile condition).reverse

/-- The text without blanks at either end. -/
def trim (text : String) : String :=
  String.ofList (dropTrailing isBlank (text.toList.dropWhile isBlank))

end RoutineTiming
