import ScimQuery.Text.Printable

/-! # Debug texts of strings

The debug text of a string is the string in double quotes, with the quote, the
backslash, NUL, tab, carriage return and line feed written as backslash escapes, and
every character that is escaped in debug texts written as `\u` and its code point in
lower-case hex between braces. All other characters stand as they are.
-/

namespace ScimQuery.Text

/-- Lower-case hex digits of a number, without leading zeros. -/
def hexText (n : Nat) : String := String.ofList (Nat.toDigits 16 n)

/-- The debug form of one character inside a string. -/
def debugChar (c : Char) : String :=
  match c with
  | '"' => "\\\""
  | '\\' => "\\\\"
  | '\x00' => "\\0"
  | '\t' => "\\t"
  | '\r' => "\\r"
  | '\n' => "\\n"
  | c => if isEscapedInDebug c then "\\u\x7b" ++ hexText c.toNat ++ "\x7d" else String.singleton c

/-- The debug text of a string, quotes included. -/
def debugQuote (s : String) : String :=
  "\"" ++ String.join (s.toList.map debugChar) ++ "\""

end ScimQuery.Text
