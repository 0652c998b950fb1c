/-
This file defines blank characters and the trimming of texts.
-/

namespace PropertyPanel.Blank

/-- The first and the last character of each range of blanks. -/
def ranges : List (Nat × Nat) :=
  [(0x9, 0xd), (0x20, 0x20), (0x85, 0x85), (0xa0, 0xa0), (0x1680, 0x1680), (0x2000, 0x200a),
   (0x2028, 0x2029), (0x202f, 0x202f), (0x205f, 0x205f), (0x3000, 0x3000)]

def isBlank (character : Char) : Bool :=
  ranges.any fun range => range.1 ≤ character.toNat && character.toNat ≤ range.2

def trimList (characters : List Char) : List Char :=
  ((characters.dropWhile isBlank).reverse.dropWhile isBlank).reverse

/-- The trimmed text neither begins nor ends with a blank. -/
def trim (text : String) : String := String.ofList (trimList text.toList)

end PropertyPanel.Blank
