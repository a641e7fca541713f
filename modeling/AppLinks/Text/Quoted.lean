import AppLinks.Text.Unprintable

/-!
# Quoted text

How a log line or a report shows a text: between double quotes, with a backslash before a quote
or a backslash, the short forms of the four common controls, and the code point in braces for
every other character that would not be seen as itself.
-/

namespace AppLinks.Text

/-- Lower-case hexadecimal, no leading zeros. -/
def hex (n : Nat) : List Char :=
  Nat.toDigits 16 n

/-- Whether a quoted text shows `c` as it is. -/
def isShown (c : Char) : Bool :=
  (0x20 ≤ c.toNat && c.toNat < 0x7F) ||
    (0x7F < c.toNat && !graphemeExtend.contains c && !unprintable.contains c)

/-- A character between quotes. -/
def quoteChar (c : Char) : List Char :=
  if c = '"' then ['\\', '"']
  else if c = '\\' then ['\\', '\\']
  else if c = '\n' then ['\\', 'n']
  else if c = '\r' then ['\\', 'r']
  else if c = '\t' then ['\\', 't']
  else if c = '\x00' then ['\\', '0']
  else if isShown c then [c]
  else '\\' :: 'u' :: '\x7b' :: hex c.toNat ++ ['\x7d']

def quote (s : String) : String :=
  String.ofList ('"' :: s.toList.flatMap quoteChar ++ ['"'])

/-- A list of texts, each quoted, between brackets. -/
def quoteList (ss : List String) : String :=
  "[" ++ String.intercalate ", " (ss.map quote) ++ "]"

end AppLinks.Text
