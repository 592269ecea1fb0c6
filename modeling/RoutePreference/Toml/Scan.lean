/-!
# Reading a text from the front

* `Scan α`: takes a value off the front of a text, or fails;
* `Scan.blanks`, `Scan.lineEnd`, `Scan.gap`: the parts of a document that mean nothing: blanks,
  comments and ends of lines.

A document may hold any character but control characters; of these only the tab, and the line
feed and the carriage return that end its lines.
-/

namespace RoutePreference.Toml

/-- Takes a value off the front of a text. -/
abbrev Scan (α : Type) : Type := StateT (List Char) Option α

/-- A character that separates words on a line. -/
def isBlank (c : Char) : Bool := c = ' ' || c = '\t'

/-- A character that a line may hold. -/
def isText (c : Char) : Bool := c = '\t' || (' ' ≤ c && c ≠ '\x7f')

namespace Scan

/-- Fails. -/
def fail {α : Type} : Scan α := fun _ => none

/-- The next character, left where it is. -/
def peek? : Scan (Option Char) := fun cs => some (cs.head?, cs)

/-- Takes the longest run of such characters. -/
def run (p : Char → Bool) : Scan (List Char) := fun cs => some (cs.takeWhile p, cs.dropWhile p)

/-- Takes the given characters, if they are next, and tells whether they were. -/
def accept (word : List Char) : Scan Bool := fun cs =>
  if word.isPrefixOf cs then some (true, cs.drop word.length) else some (false, cs)

/-- Takes the given characters, or fails. -/
def expect (word : List Char) : Scan Unit := do
  if ← accept word then return () else fail

/-- Reads with a function on characters. -/
def of {α : Type} (read : List Char → Option (α × List Char)) : Scan α := read

/-- Passes over blanks. -/
def blanks : Scan Unit := do
  let _ ← run isBlank

/-- Takes the end of a line, and tells whether it was there. -/
def newline : Scan Bool := do
  if ← accept ['\n'] then return true else accept ['\r', '\n']

/-- Passes over a comment. -/
def comment : Scan Unit := do
  if ← accept ['#'] then
    let _ ← run isText

/-- Passes over the rest of a line that holds nothing more. -/
def lineEnd : Scan Unit := do
  blanks
  comment
  if (← peek?).isSome && !(← newline) then fail

/-- Passes over blanks, comments and ends of lines, with at most so many lines. -/
def gap : Nat → Scan Unit
  | 0 => return ()
  | lines + 1 => do
    blanks
    comment
    if ← newline then gap lines

end Scan

end RoutePreference.Toml
