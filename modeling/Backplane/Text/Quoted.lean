import Backplane.Text.Hex
import Backplane.Text.Hidden

/-!
# Quoted text

A quoted text stands between double quotes. Inside, a quote and a backslash follow a backslash,
NUL, tab, line feed and carriage return have letters of their own, and a hidden character is
written by its code point, so the quoted form is unambiguous on one line.
-/
namespace Backplane.Text

/-- How one character is written between the quotes. -/
def escaped (c : Char) : String :=
  if c = '"' then "\\\""
  else if c = '\\' then "\\\\"
  else if c = '\n' then "\\n"
  else if c = '\r' then "\\r"
  else if c = '\t' then "\\t"
  else if c.toNat = 0 then "\\0"
  else if isHidden c then "\\u\x7b" ++ hex 1 c.toNat ++ "\x7d"
  else String.singleton c

/-- A text between double quotes. -/
def quoted (s : String) : String :=
  s.toList.foldl (fun acc c => acc ++ escaped c) "\"" ++ "\""

end Backplane.Text
