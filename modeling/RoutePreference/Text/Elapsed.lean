import RoutePreference.Text.Number

/-!
# Spans of time

* `Elapsed.text`: a span of whole milliseconds in the largest unit that it fills, seconds with
  as many decimals as they need.
-/

namespace RoutePreference

namespace Elapsed

/-- The thousandths of a second, without the zeros at their end. -/
def fraction (ms : Nat) : String :=
  if ms = 0 then ""
  else if ms % 100 = 0 then "." ++ toString (ms / 100)
  else if ms % 10 = 0 then "." ++ toString (ms / 100) ++ toString (ms / 10 % 10)
  else "." ++ toString (ms / 100) ++ toString (ms / 10 % 10) ++ toString (ms % 10)

/-- A span of time: nothing, milliseconds below a second, else seconds. -/
def text (ms : Nat) : String :=
  if ms = 0 then "0ns"
  else if ms < 1000 then toString ms ++ "ms"
  else toString (ms / 1000) ++ fraction (ms % 1000) ++ "s"

example : [0, 50, 1000, 1500, 1001, 2050, 3600000].map text =
    ["0ns", "50ms", "1s", "1.5s", "1.001s", "2.05s", "3600s"] := by decide +kernel

end Elapsed

end RoutePreference
