/-!
# White space and case

Blanks follow the `White_Space` property of Unicode, which is wider than the
ASCII blanks. Case is only ever folded over ASCII letters: no name that this
library compares without case has others.
-/

namespace LspGateway

/-- The characters of the Unicode property `White_Space`. -/
def Text.isBlank (c : Char) : Bool :=
  let n := c.toNat
  (9 ≤ n && n ≤ 13) || n == 0x20 || n == 0x85 || n == 0xA0 || n == 0x1680 ||
    (0x2000 ≤ n && n ≤ 0x200A) || n == 0x2028 || n == 0x2029 || n == 0x202F ||
    n == 0x205F || n == 0x3000

/-- Drops the blanks at both ends of a character list. -/
def Text.trimChars (chars : List Char) : List Char :=
  ((chars.dropWhile isBlank).reverse.dropWhile isBlank).reverse

/-- Drops the blanks at both ends of a text. -/
def Text.trim (text : String) : String :=
  String.ofList (trimChars text.toList)

/-- Lower case for ASCII letters; all other characters stay. -/
def Text.lowerAscii (text : String) : String :=
  String.ofList (text.toList.map Char.toLower)

/-- Upper case for ASCII letters; all other characters stay. -/
def Text.upperAscii (text : String) : String :=
  String.ofList (text.toList.map Char.toUpper)

/-- Equality of texts up to the case of ASCII letters. -/
def Text.sameIgnoringCase (a b : String) : Bool :=
  lowerAscii a == lowerAscii b

/-- Every ASCII blank of the standard library is a blank here. -/
theorem Text.isBlank_of_isWhitespace {c : Char} (h : c.isWhitespace = true) :
    isBlank c = true := by
  simp only [Char.isWhitespace, Bool.or_eq_true, decide_eq_true_eq] at h
  rcases h with ((rfl | rfl) | rfl) | rfl <;> decide

end LspGateway
