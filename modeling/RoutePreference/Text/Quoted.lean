import RoutePreference.Text.Printable

/-!
# Quoted text

* `Quoted.text`: a text between quotation marks, with everything escaped that could be taken for
  something else or could not be seen;
* `Quoted.optional`: a text that may be missing.

Escaped are the quotation mark and the backslash, the usual control characters by their letters,
and by their code point all marks that join the character before them and all characters without
a visible shape.
-/

namespace RoutePreference

namespace Quoted

/-- A code point in lower-case hexadecimal between braces. -/
def codePoint (c : Char) : String :=
  "\\u\x7b" ++ String.ofList (Nat.toDigits 16 c.toNat) ++ "\x7d"

/-- A character as it stands between quotation marks. -/
def char (c : Char) : String :=
  if c = '\x00' then "\\0"
  else if c = '\t' then "\\t"
  else if c = '\r' then "\\r"
  else if c = '\n' then "\\n"
  else if c = '"' then "\\\""
  else if c = '\\' then "\\\\"
  else if Printable.isExtender c || !Printable.isPrintable c then codePoint c
  else c.toString

/-- A text between quotation marks. -/
def text (s : String) : String := "\"" ++ String.join (s.toList.map char) ++ "\""

/-- A text that may be missing. -/
def optional : Option String → String
  | none => "None"
  | some s => "Some(" ++ text s ++ ")"

example : text "a\"b\\\n" = "\"a\\\"b\\\\\\n\"" := by decide +kernel
example : text "\x7f" = "\"\\u\x7b7f\x7d\"" := by decide +kernel

end Quoted

end RoutePreference
