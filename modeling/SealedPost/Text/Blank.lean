import SealedPost.Text.Basic

/-! # Blank characters

Two classes of blanks are in use. The narrow one is the White_Space property of
Unicode; the wide one adds the four information separators of ASCII. -/

namespace SealedPost

namespace CodePoint

/-- The White_Space property: 25 characters. -/
def isWhite (c : CodePoint) : Bool :=
  let n := c.toNat
  (9 ≤ n && n ≤ 13) || n == 0x20 || n == 0x85 || n == 0xA0 || n == 0x1680 ||
    (0x2000 ≤ n && n ≤ 0x200A) || n == 0x2028 || n == 0x2029 || n == 0x202F ||
    n == 0x205F || n == 0x3000

/-- White space and the information separators U+001C to U+001F. -/
def isBlank (c : CodePoint) : Bool :=
  c.isWhite || (0x1C ≤ c.toNat && c.toNat ≤ 0x1F)

theorem isBlank_of_isWhite {c : CodePoint} (h : c.isWhite = true) : c.isBlank = true := by
  simp [isBlank, h]

end CodePoint

namespace Text

/-- Cuts blanks, in the wide sense, off both ends. -/
def trim : Text → Text := trimBy CodePoint.isBlank

end Text
end SealedPost
