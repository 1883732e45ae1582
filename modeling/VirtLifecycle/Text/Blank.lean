/-
Module: VirtLifecycle.Text.Blank
Purpose: The blank characters of Unicode (property White_Space) and trimming. Names, numbers and
  switches in the configuration are read with blanks at both ends removed.
Specification: [SPEC 10 Configuration]: `trim` in `from_lookup`.
Main exports: isBlank, dropBlanks, trimChars, trim
-/

namespace VirtLifecycle.Text

/-- The characters with the Unicode property White_Space. -/
def isBlank (c : Char) : Bool :=
  let n := c.toNat
  (9 ≤ n && n ≤ 13) || n == 0x20 || n == 0x85 || n == 0xA0 || n == 0x1680 ||
    (0x2000 ≤ n && n ≤ 0x200A) || n == 0x2028 || n == 0x2029 || n == 0x202F || n == 0x205F ||
    n == 0x3000

/-- Removes the blanks at the front. -/
def dropBlanks (cs : List Char) : List Char :=
  cs.dropWhile isBlank

/-- Removes the blanks at both ends. -/
def trimChars (cs : List Char) : List Char :=
  (dropBlanks (dropBlanks cs).reverse).reverse

/-- A text without the blanks at its two ends. -/
def trim (s : String) : String :=
  String.ofList (trimChars s.toList)

end VirtLifecycle.Text
