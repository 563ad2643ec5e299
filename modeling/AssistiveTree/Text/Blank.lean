/-!
# White space

The code points with the Unicode property `White_Space`.
-/

namespace AssistiveTree
namespace Text

/-- The ranges of white space, both ends included. -/
def whiteSpaceRanges : List (Nat × Nat) :=
  [(0x9, 0xD), (0x20, 0x20), (0x85, 0x85), (0xA0, 0xA0), (0x1680, 0x1680),
    (0x2000, 0x200A), (0x2028, 0x2029), (0x202F, 0x202F), (0x205F, 0x205F),
    (0x3000, 0x3000)]

/-- Whether a character is white space. -/
def isWhiteSpace (character : Char) : Bool :=
  whiteSpaceRanges.any fun range =>
    range.1 ≤ character.toNat && character.toNat ≤ range.2

/-- Whether a text has no character but white space. -/
def isBlank (text : String) : Bool := text.toList.all isWhiteSpace

end Text
end AssistiveTree
