import RoutePreference.Harness.Procedure

/-!
# Setting up a chain of links

* `Chain.setUp`: configures both ends of the numbered links, starts the protocols of the test
  equipment and creates the default network instance.
-/

namespace RoutePreference

namespace Chain

variable {σ : Type}

/-- Calls that are made one after the other until one fails. -/
abbrev Calls (σ α : Type) : Type := ExceptT CallError (Procedure σ) α

/-- Makes a call. -/
def call (c : Call) : Calls σ c.Value := ExceptT.mk (.call c)

/-- Configures both ends of the links from the given number on. -/
def setUpLinks (first : Nat) : Nat → Calls σ Unit
  | 0 => return ()
  | more + 1 => do
    let link := Link.numbered first
    let _ ← call (.configureDut { attrs := link.dut, enabled := none })
    let _ ← call (.configureAte { attrs := link.ate, gateway := link.dut.ipv4 })
    setUpLinks (first + 1) more

/-- Sets up so many links and a network instance that forwards their traffic. -/
def setUp (links : Nat) (inst : String) : Calls σ Unit := do
  setUpLinks 1 links
  let _ ← call .startProtocols
  let _ ← call (.replaceInstance { name := inst, type := .default, description := none })
  return ()

end Chain

end RoutePreference
