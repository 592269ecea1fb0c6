import RoutePreference.Harness.Checked

/-!
# Installing routes through a session

* `Installer`: a session together with the next-hops and groups that the device has acknowledged;
* `Installer.program`: submits one operation and judges its result;
* `Installer.install*`, `Installer.delete*`: entries of each kind; an entry that refers to
  something unacknowledged is refused before it is submitted;
* `Installer.flush`, `Installer.close`: the end of the session's work.
-/

namespace RoutePreference

/-- The number of an entry within a network instance. -/
structure EntryKey where
  inst : String
  number : Nat
deriving DecidableEq, Inhabited

namespace EntryKey

/-- Keys are ordered by network instance, then by number. -/
instance : Ord EntryKey := ⟨compareLex (compareOn inst) (compareOn number)⟩

instance : Std.TransOrd EntryKey :=
  inferInstanceAs (Std.TransCmp (compareLex (compareOn inst) (compareOn number)))

instance : Std.LawfulEqOrd EntryKey where
  compare_self := fun {_} =>
    @Std.ReflCmp.compare_self _ (compareLex (compareOn inst) (compareOn number)) _ _
  eq_of_compare {a b} h := by
    obtain ⟨h₁, h₂⟩ := compareLex_eq_eq.1 h
    cases a; cases b
    simp only [mk.injEq]
    exact ⟨@Std.LawfulEqCmp.eq_of_compare _ compare _ _ _ h₁,
      @Std.LawfulEqCmp.eq_of_compare _ compare _ _ _ h₂⟩

end EntryKey

/-- A session and what the device has acknowledged in it. -/
structure Installer where
  session : Nat
  params : SessionParams
  /-- How long to wait for the results of an operation. -/
  ackTimeout : Nat
  /-- The acknowledged next-hops. -/
  nextHops : Keys EntryKey := ∅
  /-- The acknowledged groups. -/
  groups : Keys EntryKey := ∅
  /-- The number of the next operation. -/
  nextId : Nat := 1
deriving DecidableEq

namespace Installer

variable {σ : Type}

/-- What became of the operation with the given number: its first result decides. -/
def judge (i : Installer) (name : String) (id : Nat) :
    Option (Except CallError (List OperationResult)) → Except RunError Status
  | none => .error (.programmingTimeout name i.ackTimeout)
  | some (.error e) => .error (.programmingRequest name e)
  | some (.ok results) =>
    match results.find? fun r => r.id = id with
    | none => .error (.missingResult name)
    | some r =>
      match r.status with
      | .failed reason => .error (.programmingFailed name reason)
      | status =>
        if status.satisfies i.params.ackMode then .ok status
        else .error (.notInstalledInFib name status)

/-- The installer after it has numbered an operation. -/
def numbered (i : Installer) : Installer := { i with nextId := i.nextId + 1 }

/-- Submits one operation under the next number.  If it succeeds, the installer is changed as
told. -/
def program (i : Installer) (verb : Verb) (entry : AftEntry) (note : Installer → Installer) :
    Procedure σ (Except RunError Status × Installer) := do
  let op : Operation := { id := i.nextId, verb, entry }
  let reply ← .callWithin i.ackTimeout (.modify i.session [op])
  match i.judge entry.text i.nextId reply with
  | .ok status => return (.ok status, note i.numbered)
  | .error e => return (.error e, i.numbered)

/-- Refuses an entry because of something it refers to. -/
def refuse (i : Installer) (entry : AftEntry) (reference : String) :
    Procedure σ (Except RunError Status × Installer) :=
  return (.error (.unacknowledgedReference entry.text reference), i)

/-- Installs a next-hop. -/
def installNextHop (i : Installer) (h : NextHop) :
    Procedure σ (Except RunError Status × Installer) :=
  i.program .add (.nextHop h) fun i => { i with nextHops := i.nextHops.add ⟨h.inst, h.index⟩ }

/-- Installs a group, if all its members are acknowledged. -/
def installGroup (i : Installer) (g : NextHopGroup) :
    Procedure σ (Except RunError Status × Installer) :=
  match g.members.keys.find? fun index => !i.nextHops.contains ⟨g.inst, index⟩ with
  | some index => i.refuse (.nextHopGroup g) ("next-hop[" ++ toString index ++ "]")
  | none =>
    i.program .add (.nextHopGroup g) fun i => { i with groups := i.groups.add ⟨g.inst, g.id⟩ }

/-- Installs an IPv4 entry, if its group is acknowledged. -/
def installIpv4 (i : Installer) (e : Ipv4Entry) :
    Procedure σ (Except RunError Status × Installer) :=
  if i.groups.contains ⟨e.groupHome, e.group⟩ then i.program .add (.ipv4 e) id
  else i.refuse (.ipv4 e) ("next-hop-group[" ++ toString e.group ++ "]")

/-- Deletes an IPv4 entry. -/
def deleteIpv4 (i : Installer) (e : Ipv4Entry) :
    Procedure σ (Except RunError Status × Installer) :=
  i.program .delete (.ipv4 e) id

/-- Deletes a group, which is no longer acknowledged then. -/
def deleteGroup (i : Installer) (g : NextHopGroup) :
    Procedure σ (Except RunError Status × Installer) :=
  i.program .delete (.nextHopGroup g) fun i => { i with groups := i.groups.erase ⟨g.inst, g.id⟩ }

/-- Deletes a next-hop, which is no longer acknowledged then. -/
def deleteNextHop (i : Installer) (h : NextHop) :
    Procedure σ (Except RunError Status × Installer) :=
  i.program .delete (.nextHop h) fun i =>
    { i with nextHops := i.nextHops.erase ⟨h.inst, h.index⟩ }

/-- The installer after everything in a network instance was removed. -/
def flushed (i : Installer) (inst : String) : Installer :=
  { i with
    nextHops := i.nextHops.filter fun k _ => k.inst ≠ inst
    groups := i.groups.filter fun k _ => k.inst ≠ inst }

/-- Removes everything in a network instance. -/
def flush (i : Installer) (inst : String) : Procedure σ (Except CallError Unit × Installer) := do
  match ← .call (.flush i.session inst) with
  | .ok _ => return (.ok (), i.flushed inst)
  | .error e => return (.error e, i)

/-- Closes the session. -/
def close (i : Installer) : Procedure σ (Except CallError Unit) := .call (.close i.session)

/-! ### Text -/

/-- A set of keys in braces. -/
def keysText (s : Keys EntryKey) : String :=
  let key (k : EntryKey) := "(" ++ Quoted.text k.inst ++ ", " ++ toString k.number ++ ")"
  "\x7b" ++ String.intercalate ", " (s.keys.map key) ++ "\x7d"

/-- Session parameters with the names of their parts. -/
def paramsText (p : SessionParams) : String :=
  "SessionParams \x7b persistence: " ++ (if p.persistence then "true" else "false")
    ++ ", ack_mode: " ++ (match p.ackMode with | .rib => "RibAck" | .ribAndFib => "RibAndFibAck")
    ++ ", election_id: ElectionId \x7b high: " ++ toString p.electionId.high ++ ", low: "
    ++ toString p.electionId.low ++ " \x7d \x7d"

/-- The installer with the names of its parts. -/
def text (i : Installer) : String :=
  "RouteInstaller \x7b params: " ++ paramsText i.params ++ ", next_hops: " ++ keysText i.nextHops
    ++ ", next_hop_groups: " ++ keysText i.groups ++ " \x7d"

end Installer

/-- Configures a route. -/
def installStatic {σ : Type} (cfg : StaticRoute) : Checked σ Unit :=
  Checked.call (.staticRoute cfg.dest) (.replaceStatic cfg)

end RoutePreference
