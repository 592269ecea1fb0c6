import RoutePreference.Toml.Scan

/-!
# Quoted strings

* `basic`, `literal`: strings on one line; basic ones have escapes;
* `longBasic`, `longLiteral`: strings over several lines, between three quotation marks;
* `quotation`: a string of any of the four kinds, `quotedKey`: one on a single line.
-/

namespace RoutePreference.Toml

/-- The value of a hexadecimal digit. -/
def hexDigit? (c : Char) : Option Nat :=
  if c.isDigit then some (c.toNat - '0'.toNat)
  else if 'a' ≤ c ∧ c ≤ 'f' then some (c.toNat - 'a'.toNat + 10)
  else if 'A' ≤ c ∧ c ≤ 'F' then some (c.toNat - 'A'.toNat + 10)
  else none

/-- The value of hexadecimal digits. -/
def hexNumber? (digits : List Char) : Option Nat :=
  digits.foldlM (fun n c => (hexDigit? c).map fun d => 16 * n + d) 0

/-- The character with the given code point, which may not be a surrogate. -/
def codePoint? (digits : List Char) : Option Char :=
  (hexNumber? digits).bind fun n => if n.isValidChar then some (Char.ofNat n) else none

/-- The character that a letter stands for after a backslash. -/
def escape? : Char → Option Char
  | 'b' => some '\x08'
  | 't' => some '\t'
  | 'n' => some '\n'
  | 'f' => some '\x0c'
  | 'r' => some '\r'
  | '"' => some '"'
  | '\\' => some '\\'
  | _ => none

/-- A finished string, whose characters were collected last one first. -/
def collected (acc : List Char) : String := String.ofList acc.reverse

/-- Reads on to the quotation mark that ends a basic string. -/
def basic (acc : List Char) : List Char → Option (String × List Char)
  | [] => none
  | '"' :: cs => some (collected acc, cs)
  | '\\' :: 'u' :: a :: b :: c :: d :: cs => do basic ((← codePoint? [a, b, c, d]) :: acc) cs
  | '\\' :: 'U' :: a :: b :: c :: d :: e :: f :: g :: h :: cs => do
    basic ((← codePoint? [a, b, c, d, e, f, g, h]) :: acc) cs
  | '\\' :: e :: cs => do basic ((← escape? e) :: acc) cs
  | c :: cs => if isText c then basic (c :: acc) cs else none

/-- The mark around literal strings. -/
def literalMark : Char := '\''

/-- Reads on to the mark that ends a literal string. -/
def literal (acc : List Char) : List Char → Option (String × List Char)
  | [] => none
  | c :: cs =>
    if c = literalMark then some (collected acc, cs)
    else if isText c then literal (c :: acc) cs
    else none

/-! ### Strings over several lines -/

/-- How many of the given marks come next. -/
def marks (mark : Char) (cs : List Char) : Nat := (cs.takeWhile (· = mark)).length

/-- The end of a long string: three marks, before which one or two more belong to the string. -/
def closing? (mark : Char) (acc cs : List Char) : Option (String × List Char) :=
  let n := marks mark cs
  if n < 3 then none
  else
    let extra := Nat.min (n - 3) 2
    some (collected (List.replicate extra mark ++ acc), cs.drop (extra + 3))

/-- Where in a long basic string the reading is. -/
inductive LongState where
  | text
  /-- After a backslash that has to be the last thing on its line. -/
  | lineEnd
  /-- Before the text that goes on after such a line. -/
  | lineStart
deriving DecidableEq

/-- Reads on to the marks that end a long basic string. -/
def longBasic (state : LongState) (acc : List Char) : List Char → Option (String × List Char)
  | [] => none
  | '\r' :: '\n' :: cs =>
    if state = .text then longBasic .text ('\n' :: '\r' :: acc) cs
    else longBasic .lineStart acc cs
  | '\n' :: cs =>
    if state = .text then longBasic .text ('\n' :: acc) cs else longBasic .lineStart acc cs
  | c :: cs =>
    if state ≠ .text && isBlank c then longBasic state acc cs
    else if state = .lineEnd then none
    else if c = '"' then
      match closing? '"' acc (c :: cs) with
      | some done => some done
      | none => longBasic .text (c :: acc) cs
    else if c = '\\' then
      match cs with
      | 'u' :: a :: b :: c :: d :: cs => do
        longBasic .text ((← codePoint? [a, b, c, d]) :: acc) cs
      | 'U' :: a :: b :: c :: d :: e :: f :: g :: h :: cs => do
        longBasic .text ((← codePoint? [a, b, c, d, e, f, g, h]) :: acc) cs
      | '\r' :: '\n' :: cs => longBasic .lineStart acc cs
      | e :: cs =>
        if e = '\n' then longBasic .lineStart acc cs
        else if isBlank e then longBasic .lineEnd acc cs
        else do longBasic .text ((← escape? e) :: acc) cs
      | [] => none
    else if isText c then longBasic .text (c :: acc) cs
    else none

/-- Reads on to the marks that end a long literal string. -/
def longLiteral (acc : List Char) : List Char → Option (String × List Char)
  | [] => none
  | '\r' :: '\n' :: cs => longLiteral ('\n' :: '\r' :: acc) cs
  | c :: cs =>
    if c = literalMark then
      match closing? literalMark acc (c :: cs) with
      | some done => some done
      | none => longLiteral (c :: acc) cs
    else if isText c || c = '\n' then longLiteral (c :: acc) cs
    else none

/-! ### All kinds -/

namespace Scan

/-- Reads a string on one line, if one comes next. -/
def quotedKey : Scan (Option String) := do
  if ← accept ['"'] then some <$> of (basic [])
  else if ← accept [literalMark] then some <$> of (literal [])
  else return none

/-- Reads a string, if one comes next.  An end of line right after the opening marks of a long
string does not belong to it. -/
def quotation : Scan (Option String) := do
  if ← accept ['"', '"', '"'] then
    let _ ← newline
    some <$> of (longBasic .text [])
  else if ← accept [literalMark, literalMark, literalMark] then
    let _ ← newline
    some <$> of (longLiteral [])
  else quotedKey

end Scan

end RoutePreference.Toml
