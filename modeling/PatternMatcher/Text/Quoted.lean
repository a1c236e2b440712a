import PatternMatcher.Text.Shape

/-!
# Quoted text

A quoted text stands between double quotes and shows what cannot be seen: a
quote and a backslash behind a backslash, four control characters by a letter,
and every other character without a shape of its own by its code point.
-/

namespace PatternMatcher

def codePointEscape (char : Char) : List Char :=
  ['\\', 'u', '{'] ++ Nat.toDigits 16 char.toNat ++ ['}']

/-- A character as it stands in a quoted text. -/
def quoteChar (char : Char) : List Char :=
  match char with
  | '"' => ['\\', '"']
  | '\\' => ['\\', '\\']
  | '\n' => ['\\', 'n']
  | '\r' => ['\\', 'r']
  | '\t' => ['\\', 't']
  | '\x00' => ['\\', '0']
  | _ => if hasShape char then [char] else codePointEscape char

def quote (text : String) : String :=
  .ofList ('"' :: (text.toList.flatMap quoteChar ++ ['"']))

end PatternMatcher
