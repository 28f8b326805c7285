/-! # Blanks and ASCII case

Trimming removes the characters of the Unicode White_Space property from both ends of
a text. Case-insensitive comparison and lower-casing here touch the ASCII letters only,
so that every other character compares and stays as it is.
-/

namespace ScimQuery.Text

/-- The characters of the White_Space property. -/
def isBlank (c : Char) : Bool :=
  let n := c.toNat
  (0x09 ≤ n ∧ n ≤ 0x0D) || n = 0x20 || n = 0x85 || n = 0xA0 || n = 0x1680 ||
    (0x2000 ≤ n ∧ n ≤ 0x200A) || n = 0x2028 || n = 0x2029 || n = 0x202F || n = 0x205F ||
    n = 0x3000

/-- A text without the blanks at either end. -/
def trim (s : String) : String :=
  String.ofList ((s.toList.dropWhile isBlank).reverse.dropWhile isBlank).reverse

/-- The lower case of an ASCII letter; every other character stays. -/
def asciiLower (c : Char) : Char :=
  if 'A' ≤ c ∧ c ≤ 'Z' then Char.ofNat (c.toNat + 32) else c

/-- The upper case of an ASCII letter; every other character stays. -/
def asciiUpper (c : Char) : Char :=
  if 'a' ≤ c ∧ c ≤ 'z' then Char.ofNat (c.toNat - 32) else c

/-- A text with its ASCII letters in lower case. -/
def lowerAscii (s : String) : String := String.ofList (s.toList.map asciiLower)

/-- Equality of texts up to the case of ASCII letters. Equal texts and texts of
different lengths are settled without lower-casing, since lower-casing keeps the length. -/
def eqIgnoreAsciiCase (a b : String) : Bool :=
  a == b || (a.length == b.length && lowerAscii a == lowerAscii b)

/-- Whether every character is ASCII. -/
def isAscii (s : String) : Bool := s.toList.all fun c => c.toNat < 128

end ScimQuery.Text
