import RoutePreference.Proofs.Harness.Timeline

/-!
# Watching a flow

* `TrafficCheck.Watching`: the reads of the counters of a flow from some time on, one case for each
  way to go on;
* `gives_observe`: watching a flow leads to such reads, never runs out of them, and ends with the
  reply to the last one;
* `Watching.failure_eq`, `Watching.ok_iff`: the watch fails exactly if its last read does.
-/

namespace RoutePreference

/-- The error that something ends with, if it fails. -/
def errorOf {ε α : Type} : Except ε α → Option ε
  | .error e => some e
  | .ok _ => none

/-- The failure that a reply about a flow is turned into, if it is an error. -/
def Sample.failure? {α : Type} (flow : String) (x : Sample α) : Option RunError :=
  (errorOf x.reply).map (.trafficControl flow)

theorem Sample.failure?_error {α : Type} {flow : String} {x : Sample α} {e : CallError}
    (h : x.reply = .error e) : x.failure? flow = some (.trafficControl flow e) := by
  rw [failure?, h]
  rfl

theorem Sample.failure?_ok {α : Type} {flow : String} {x : Sample α} {a : α}
    (h : x.reply = .ok a) : x.failure? flow = none := by
  rw [failure?, h]
  rfl

/-- When the last one of some calls was answered; without any, a given time. -/
def lastReply {α : Type} (b : Nat) : List (Sample α) → Nat
  | [] => b
  | x :: rest => lastReply x.ended rest

/-- A read of the counters of a flow. -/
def countersRead (flow : String) (x : Sample FlowCounters) : TimedCall := x.of (.counters flow)

namespace TrafficCheck

variable {σ S : Type} {w : Surroundings S} {watch : Watch} {flow : String}
  {packetCount deadline b stable : Nat} {last : Option Nat} {reads : List (Sample FlowCounters)}
  {seen : Except RunError Unit}

/-- Whether a flow has settled: all was sent, and the count received has been the same for long
enough. -/
def Settled (watch : Watch) (packetCount stable : Nat) (c : FlowCounters) : Prop :=
  packetCount ≤ c.tx ∧ watch.stablePolls ≤ stable

/-- Whether a read is the one that follows on a given time: there is time left, and the pause before
it does not go beyond the deadline. -/
structure Follows (watch : Watch) (deadline b : Nat) (r : Sample FlowCounters) : Prop where
  early : b < deadline
  begun : r.begun = b + min watch.interval (deadline - b)
  onwards : r.begun ≤ r.ended

/-- The reads of the counters of a flow from some time on, with the count received last and for how
many reads it has been the same, and what they lead to. -/
inductive Watching (watch : Watch) (flow : String) (packetCount deadline : Nat) :
    Nat → Option Nat → Nat → List (Sample FlowCounters) → Except RunError Unit → Prop where
  /-- Time is up. -/
  | expired {b stable : Nat} {last : Option Nat} (late : deadline ≤ b) :
    Watching watch flow packetCount deadline b last stable [] (.ok ())
  | failed {b stable : Nat} {last : Option Nat} {r : Sample FlowCounters} {e : CallError}
    (follows : Follows watch deadline b r) (reply : r.reply = .error e) :
    Watching watch flow packetCount deadline b last stable [r] (.error (.trafficControl flow e))
  | settled {b stable : Nat} {last : Option Nat} {r : Sample FlowCounters} {c : FlowCounters}
    (follows : Follows watch deadline b r) (reply : r.reply = .ok c)
    (settled : Settled watch packetCount (stableAfter last stable c.rx) c) :
    Watching watch flow packetCount deadline b last stable [r] (.ok ())
  | again {b stable : Nat} {last : Option Nat} {r : Sample FlowCounters} {c : FlowCounters}
    {reads : List (Sample FlowCounters)} {seen : Except RunError Unit}
    (follows : Follows watch deadline b r) (reply : r.reply = .ok c)
    (unsettled : ¬ Settled watch packetCount (stableAfter last stable c.rx) c)
    (rest : Watching watch flow packetCount deadline r.ended (some c.rx)
      (stableAfter last stable c.rx) reads seen) :
    Watching watch flow packetCount deadline b last stable (r :: reads) seen

/-! ### The loop -/

/-- With every read there is one interval less left. -/
theorem Follows.left {r : Sample FlowCounters} {n : Nat} (h : Follows watch deadline b r)
    (hleft : deadline - b ≤ (n + 1) * watch.interval) :
    deadline - r.ended ≤ n * watch.interval := by
  obtain ⟨hearly, hbegun, honwards⟩ := h
  rw [Nat.succ_mul] at hleft
  omega

theorem gives_over (watch : Watch) (flow : String) (packetCount n : Nat) (last : Option Nat)
    (stable : Nat) {s : S} (hlate : deadline ≤ w.now s) :
    Checked.Gives w (observeFrom watch flow packetCount deadline last stable (n + 1) :
      Checked σ Unit) s (.ok ()) s := by
  refine Checked.Gives.bind (Checked.Gives.now s) ?_
  exact .ite_pos hlate (.pure () s)

/-- A read that follows, and how the watch goes on after it. -/
theorem gives_read (hw : w.Timely) (watch : Watch) (flow : String) (packetCount n : Nat)
    (last : Option Nat) (stable : Nat) (log : List TimedCall) {s : S}
    (hearly : w.now s < deadline) :
    ∃ (r : Sample FlowCounters) (s' : S), Follows watch deadline (w.now s) r ∧ w.now s' = r.ended ∧
      (∀ e, r.reply = .error e →
        Checked.Gives w.timed (observeFrom watch flow packetCount deadline last stable (n + 1) :
          Checked σ Unit) (log, s) (.error (.trafficControl flow e))
          (log ++ [countersRead flow r], s')) ∧
      ∀ c seen t, r.reply = .ok c →
        Checked.Gives w.timed
          (if packetCount ≤ c.tx ∧ watch.stablePolls ≤ stableAfter last stable c.rx then pure ()
            else observeFrom watch flow packetCount deadline (some c.rx)
              (stableAfter last stable c.rx) n : Checked σ Unit)
          (log ++ [countersRead flow r], s') seen t →
        Checked.Gives w.timed (observeFrom watch flow packetCount deadline last stable (n + 1) :
          Checked σ Unit) (log, s) seen t := by
  obtain ⟨s₁, hpassed, hsleep⟩ :=
    hw.sleep (σ := σ) (min watch.interval (deadline - w.now s)) log s
  obtain ⟨r, s₂, hbegun, honwards, hended, hcall⟩ :=
    hw.call (σ := σ) (.trafficControl flow) (.counters flow) log s₁
  -- Both replies go on in the same way up to the read itself.
  have hround : ∀ {seen : Except RunError Unit} {t : List TimedCall × S},
      Checked.Gives w.timed ((Checked.call (.trafficControl flow) (.counters flow) >>=
        fun c : FlowCounters =>
          if packetCount ≤ c.tx ∧ watch.stablePolls ≤ stableAfter last stable c.rx then pure ()
          else observeFrom watch flow packetCount deadline (some c.rx)
            (stableAfter last stable c.rx) n : Checked σ Unit)) (log, s₁) seen t →
      Checked.Gives w.timed (observeFrom watch flow packetCount deadline last stable (n + 1) :
        Checked σ Unit) (log, s) seen t := by
    intro seen t hrest
    refine Checked.Gives.bind (Checked.Gives.now _) ?_
    exact .ite_neg (Nat.not_le.2 hearly) (hsleep.bind hrest)
  refine ⟨r, s₂, ⟨hearly, hbegun.trans hpassed, honwards⟩, hended, fun e he => ?_,
    fun c seen t hc hrest => ?_⟩
  · rw [he] at hcall
    exact hround hcall.bind_error
  · rw [hc] at hcall
    exact hround (hcall.bind hrest)

/-- As many reads as there are intervals left, and one more, are enough. -/
theorem gives_observeFrom (hw : w.Timely) (watch : Watch) (flow : String)
    (packetCount deadline n : Nat) (last : Option Nat) (stable : Nat) {s : S}
    (henough : deadline - w.now s ≤ n * watch.interval) (log : List TimedCall) :
    ∃ reads seen s',
      Checked.Gives w.timed (observeFrom watch flow packetCount deadline last stable (n + 1) :
        Checked σ Unit) (log, s) seen (log ++ reads.map (countersRead flow), s') ∧
      w.now s' = lastReply (w.now s) reads ∧
      Watching watch flow packetCount deadline (w.now s) last stable reads seen := by
  induction n generalizing s last stable log with
  | zero =>
    have hlate : deadline ≤ w.now s := by omega
    refine ⟨[], .ok (), s, ?_, rfl, .expired hlate⟩
    rw [List.map_nil, List.append_nil]
    exact gives_over watch flow packetCount 0 last stable hlate
  | succ n ih =>
    by_cases hlate : deadline ≤ w.now s
    · refine ⟨[], .ok (), s, ?_, rfl, .expired hlate⟩
      rw [List.map_nil, List.append_nil]
      exact gives_over watch flow packetCount (n + 1) last stable hlate
    · obtain ⟨r, s', hfollows, hended, hfailed, hgoes⟩ := gives_read (σ := σ) hw watch flow
        packetCount (n + 1) last stable log (Nat.not_le.1 hlate)
      cases hreply : r.reply with
      | error e => exact ⟨[r], _, s', hfailed e hreply, hended, .failed hfollows hreply⟩
      | ok c =>
        by_cases hsettled : Settled watch packetCount (stableAfter last stable c.rx) c
        · refine ⟨[r], .ok (), s', hgoes c _ _ hreply ?_, hended,
            .settled hfollows hreply hsettled⟩
          exact .ite_pos hsettled (.pure _ _)
        · have hleft := hfollows.left henough
          rw [← hended] at hleft
          obtain ⟨reads, seen, s'', hrest, hlast, hwatching⟩ := ih (some c.rx)
            (stableAfter last stable c.rx) hleft (log ++ [countersRead flow r])
          rw [hended] at hlast hwatching
          refine ⟨r :: reads, seen, s'', hgoes c _ _ hreply ?_, hlast,
            .again hfollows hreply hsettled hwatching⟩
          rw [List.append_assoc] at hrest
          exact .ite_neg hsettled hrest

/-- **Watching a flow** leads to reads of its counters, and never runs out of them. -/
theorem gives_observe (hw : w.Timely) (hpositive : 0 < watch.interval) (flow : String)
    (packetCount : Nat) (log : List TimedCall) (s : S) :
    ∃ reads seen s',
      Checked.Gives w.timed (observe watch flow packetCount : Checked σ Unit) (log, s) seen
        (log ++ reads.map (countersRead flow), s') ∧
      w.now s' = lastReply (w.now s) reads ∧
      Watching watch flow packetCount (w.now s + watch.duration) (w.now s) none 0 reads seen := by
  have hbudget : readBudget watch = (watch.duration / watch.interval + 1) + 1 :=
    if_neg (Nat.pos_iff_ne_zero.1 hpositive)
  have henough : w.now s + watch.duration - w.now s ≤
      (watch.duration / watch.interval + 1) * watch.interval := by
    rw [Nat.add_sub_cancel_left, Nat.mul_comm]
    exact Nat.le_of_lt (Nat.lt_mul_div_succ watch.duration hpositive)
  obtain ⟨reads, seen, s', hgives, hlast, hwatching⟩ := gives_observeFrom (σ := σ) hw watch flow
    packetCount (w.now s + watch.duration) _ none 0 henough log
  refine ⟨reads, seen, s', Checked.Gives.bind (Checked.Gives.now _) ?_, hlast, hwatching⟩
  rw [hbudget]
  exact hgives

/-! ### What the reads are -/

namespace Watching

/-- The watch fails exactly if its last read does. -/
theorem failure_eq (h : Watching watch flow packetCount deadline b last stable reads seen) :
    reads.getLast?.bind (Sample.failure? flow) = errorOf seen := by
  induction h with
  | expired => rfl
  | failed _ hreply => simp [Sample.failure?_error hreply, errorOf]
  | settled _ hreply => simp [Sample.failure?_ok hreply, errorOf]
  | @again b stable last r c reads seen _ hreply _ hrest ih =>
    cases reads with
    | nil =>
      cases hrest
      simp [Sample.failure?_ok hreply, errorOf]
    | cons r' reads => rwa [List.getLast?_cons_cons]

/-- The watch succeeds exactly if all reads do. -/
theorem ok_iff (h : Watching watch flow packetCount deadline b last stable reads seen) :
    seen = .ok () ↔ ∀ r ∈ reads, ∃ c, r.reply = .ok c := by
  induction h with
  | expired => simp
  | failed _ hreply => simp [hreply]
  | settled _ hreply => simp [hreply]
  | again _ hreply _ _ ih => simp [hreply, ih]

end Watching

end TrafficCheck

end RoutePreference
