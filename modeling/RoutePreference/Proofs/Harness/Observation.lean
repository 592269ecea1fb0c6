import RoutePreference.Proofs.Harness.Watching
import RoutePreference.Proofs.Word

/-!
# When the watch of a flow ends

* `TrafficCheck.streak`: for how many reads the count received has been the same, read off all
  counts at once; `le_streak_iff`: a lower bound on it is a statement about the latest counts alone;
* `TrafficCheck.streakWord?`, `streakWord?_eq`: the same with words of 32 bits, which does not
  overflow for 2³² counts or less;
* `TrafficCheck.SettledBy`: whether a flow has settled, read off the counters that were shown;
* `TrafficCheck.Tallied`: what the loop keeps of the counters that were shown, with `Tallied.concat`
  for one read more and `Tallied.settled_iff` for the loop's own test;
* `Watching.length_le`, `Watching.paced`, `Watching.unsettled`, `Watching.timely`,
  `Watching.finished`: how many reads there are, when they are made, and what they show;
* `observation_ends`: watching a flow ends with the first read by which it has settled, with the
  first one that fails, or with the first one that comes when time is up.
-/

namespace RoutePreference

namespace TrafficCheck

variable {σ S : Type} {w : Surroundings S} {watch : Watch} {flow : String}
  {packetCount deadline b stable : Nat} {last : Option Nat} {reads : List (Sample FlowCounters)}
  {seen : Except RunError Unit} {past : List FlowCounters} {c : FlowCounters}

/-! ### The latest counts -/

/-- For how many reads beyond the first the count received has been the same; the counts stand in
their order, newest first. -/
def streak : List Nat → Nat
  | [] => 0
  | x :: older => stableAfter older.head? (streak older) x

/-- The count has been the same for `m` reads exactly if the latest `m + 1` counts are all the
same. -/
theorem le_streak_iff {m x : Nat} {older : List Nat} :
    m ≤ streak (x :: older) ↔ (x :: older).take (m + 1) = List.replicate (m + 1) x := by
  induction m generalizing x older with
  | zero => simp
  | succ m ih =>
    rcases older with _ | ⟨y, older⟩
    · simp [streak, stableAfter, List.replicate_succ]
    · rw [streak, List.head?_cons, stableAfter, List.take_succ_cons, List.replicate_succ]
      by_cases hy : y = x
      · subst hy
        rw [if_pos rfl, Nat.succ_le_succ_iff, ih, List.cons_inj_right]
      · rw [if_neg (fun h => hy (Option.some.inj h))]
        simp [List.replicate_succ, hy]

/-- A number of reads without change never exceeds the reads before it. -/
theorem streak_lt (x : Nat) (older : List Nat) : streak (x :: older) < (x :: older).length := by
  induction older generalizing x with
  | nil => simp [streak, stableAfter]
  | cons y older ih =>
    have hlt := ih y
    rw [streak, stableAfter, List.length_cons]
    split
    · exact Nat.succ_lt_succ hlt
    · exact Nat.succ_pos _

/-- How many reads in a row have shown the same count, with words of 32 bits, if it fits. -/
def stableAfterWord? (last : Option Nat) (stable : BitVec 32) (rx : Nat) : Option (BitVec 32) :=
  if last = some rx then Word.add? stable 1 else some 0

/-- For how many reads beyond the first the count has been the same, with words of 32 bits. -/
def streakWord? : List Nat → Option (BitVec 32)
  | [] => some 0
  | x :: older => (streakWord? older).bind fun stable => stableAfterWord? older.head? stable x

/-- **The number of reads without change never overflows** in as many reads as a word can count. -/
theorem streakWord?_eq {counts : List Nat} (h : counts.length ≤ 0x100000000) :
    ∃ stable, streakWord? counts = some stable ∧ stable.toNat = streak counts := by
  induction counts with
  | nil => exact ⟨0, rfl, rfl⟩
  | cons x older ih =>
    rw [List.length_cons] at h
    obtain ⟨stable, hstable, hnat⟩ := ih (by omega)
    rw [streakWord?, hstable, Option.bind_some, stableAfterWord?, streak, stableAfter, ← hnat]
    split
    · next hsame =>
      -- the counts before have at least one member
      obtain ⟨y, rest, rfl⟩ : ∃ y rest, older = y :: rest := by
        cases older with
        | nil => cases hsame
        | cons y rest => exact ⟨y, rest, rfl⟩
      have hlt := streak_lt y rest
      exact Word.add?_ofNat (x := stable) (n := 1) (by rw [BitVec.toNat_allOnes]; omega)
    · exact ⟨0, rfl, rfl⟩

/-- The counts received that counters show, newest first. -/
def received (cs : List FlowCounters) : List Nat := (cs.map FlowCounters.rx).reverse

theorem received_concat (cs : List FlowCounters) (c : FlowCounters) :
    received (cs ++ [c]) = c.rx :: received cs := by
  simp [received]

/-- The latest counts, as a window at the end of the counters. -/
theorem take_received_iff {cs : List FlowCounters} {m x : Nat} :
    (received cs).take (m + 1) = List.replicate (m + 1) x ↔
      m < cs.length ∧ ∀ c ∈ cs.drop (cs.length - (m + 1)), c.rx = x := by
  have hwindow : (received cs).take (m + 1) =
      ((cs.drop (cs.length - (m + 1))).map FlowCounters.rx).reverse := by
    rw [received, List.take_reverse, List.length_map, List.map_drop]
  rw [hwindow, List.eq_replicate_iff]
  simp only [List.length_reverse, List.length_map, List.length_drop, List.mem_reverse,
    List.forall_mem_map]
  constructor
  · rintro ⟨hlength, hsame⟩
    exact ⟨by omega, hsame⟩
  · rintro ⟨hlength, hsame⟩
    exact ⟨by omega, hsame⟩

/-! ### What the loop keeps -/

/-- Whether a flow has settled by the time that its counters were shown so far: there are more reads
than have to be without change, the latest ones, as many as that and one more, show the same count
received, and by the last one all was sent. -/
def SettledBy (watch : Watch) (packetCount : Nat) (cs : List FlowCounters) : Prop :=
  watch.stablePolls < cs.length ∧ ∃ c, cs.getLast? = some c ∧ packetCount ≤ c.tx ∧
    ∀ x ∈ cs.drop (cs.length - (watch.stablePolls + 1)), x.rx = c.rx

/-- Whether the loop keeps of the counters shown so far what it should: the latest count received,
and for how many reads it has been the same. -/
structure Tallied (past : List FlowCounters) (last : Option Nat) (stable : Nat) : Prop where
  last : last = (received past).head?
  stable : stable = streak (received past)

theorem Tallied.start : Tallied [] none 0 := ⟨rfl, rfl⟩

theorem Tallied.concat (h : Tallied past last stable) (c : FlowCounters) :
    Tallied (past ++ [c]) (some c.rx) (stableAfter last stable c.rx) where
  last := by rw [received_concat, List.head?_cons]
  stable := by rw [received_concat, streak, h.last, h.stable]

/-- The loop's test tells whether the flow has settled. -/
theorem Tallied.settled_iff (h : Tallied past last stable) :
    Settled watch packetCount (stableAfter last stable c.rx) c ↔
      SettledBy watch packetCount (past ++ [c]) := by
  have hwindow : watch.stablePolls ≤ stableAfter last stable c.rx ↔
      watch.stablePolls < (past ++ [c]).length ∧
        ∀ x ∈ (past ++ [c]).drop ((past ++ [c]).length - (watch.stablePolls + 1)), x.rx = c.rx := by
    rw [(h.concat c).stable, ← take_received_iff, received_concat]
    exact le_streak_iff
  unfold Settled SettledBy
  rw [hwindow]
  constructor
  · rintro ⟨hsent, hlong, hsame⟩
    exact ⟨hlong, c, List.getLast?_concat, hsent, hsame⟩
  · rintro ⟨hlong, c', hlast, hsent, hsame⟩
    rw [List.getLast?_concat] at hlast
    cases hlast
    exact ⟨hsent, hlong, hsame⟩

/-! ### What the reads are -/

/-- The counters that reads show, in order. -/
def shown (reads : List (Sample FlowCounters)) : List FlowCounters :=
  reads.filterMap fun r => r.reply.toOption

theorem shown_cons_ok {r : Sample FlowCounters} (h : r.reply = .ok c) :
    shown (r :: reads) = c :: shown reads := by
  rw [shown, List.filterMap_cons, h]
  rfl

/-- Where a read follows, there is an interval left. -/
theorem Follows.exists_succ {r : Sample FlowCounters} (h : Follows watch deadline b r) {n : Nat}
    (hleft : deadline - b ≤ n * watch.interval) : ∃ k, n = k + 1 := by
  have hearly := h.early
  cases n with
  | zero => omega
  | succ k => exact ⟨k, rfl⟩

namespace Watching

theorem length_le (h : Watching watch flow packetCount deadline b last stable reads seen) {n : Nat}
    (hleft : deadline - b ≤ n * watch.interval) : reads.length ≤ n := by
  induction h generalizing n with
  | expired => exact Nat.zero_le n
  | failed hfollows =>
    obtain ⟨k, rfl⟩ := hfollows.exists_succ hleft
    exact Nat.le_add_left 1 k
  | settled hfollows =>
    obtain ⟨k, rfl⟩ := hfollows.exists_succ hleft
    exact Nat.le_add_left 1 k
  | again hfollows _ _ _ ih =>
    obtain ⟨k, rfl⟩ := hfollows.exists_succ hleft
    exact Nat.succ_le_succ (ih (hfollows.left hleft))

/-- Each read follows on the reply to the one before. -/
theorem paced (h : Watching watch flow packetCount deadline b last stable reads seen) {k : Nat}
    {r : Sample FlowCounters} (hr : reads[k]? = some r) :
    Follows watch deadline (lastReply b (reads.take k)) r := by
  induction h generalizing k with
  | expired => cases hr
  | failed hfollows =>
    cases k with
    | zero => cases hr; exact hfollows
    | succ k => cases hr
  | settled hfollows =>
    cases k with
    | zero => cases hr; exact hfollows
    | succ k => cases hr
  | again hfollows _ _ _ ih =>
    cases k with
    | zero => cases hr; exact hfollows
    | succ k => exact ih hr

/-- The flow has not settled by any read but the last one. -/
theorem unsettled (h : Watching watch flow packetCount deadline b last stable reads seen)
    (htallied : Tallied past last stable) {n : Nat} (hn : 0 < n) (hlt : n < reads.length) :
    ¬ SettledBy watch packetCount (past ++ (shown reads).take n) := by
  induction h generalizing past n with
  | expired => exact absurd hlt (Nat.not_lt_zero n)
  | failed => exact absurd hlt (Nat.not_lt.2 hn)
  | settled => exact absurd hlt (Nat.not_lt.2 hn)
  | @again b stable last r c reads seen _ hreply hunsettled _ ih =>
    rw [htallied.settled_iff] at hunsettled
    rw [shown_cons_ok hreply]
    obtain _ | _ | n := n
    · exact absurd hn (Nat.lt_irrefl 0)
    · exact hunsettled
    · have hrest := ih (htallied.concat c) (Nat.succ_pos n) (Nat.lt_of_succ_lt_succ hlt)
      rwa [List.append_assoc, List.singleton_append] at hrest

/-- The reads before the last one are answered in time. -/
theorem timely (h : Watching watch flow packetCount deadline b last stable reads seen) :
    ∀ r ∈ reads.dropLast, (∃ c, r.reply = .ok c) ∧ r.ended < deadline := by
  induction h with
  | expired => simp
  | failed => simp
  | settled => simp
  | @again b stable last r c reads seen _ hreply _ hrest ih =>
    cases reads with
    | nil => simp
    | cons r' reads =>
      rw [List.dropLast_cons_cons]
      exact List.forall_mem_cons.2 ⟨⟨⟨c, hreply⟩, (hrest.paced (k := 0) rfl).early⟩, ih⟩

/-- A watch that does not fail ends because the flow has settled, or because time is up. -/
theorem finished (h : Watching watch flow packetCount deadline b last stable reads seen)
    (htallied : Tallied past last stable) (hok : seen = .ok ()) :
    SettledBy watch packetCount (past ++ shown reads) ∨ deadline ≤ lastReply b reads := by
  induction h generalizing past with
  | expired hlate => exact .inr hlate
  | failed => cases hok
  | settled _ hreply hsettled =>
    rw [shown_cons_ok hreply]
    exact .inl (htallied.settled_iff.1 hsettled)
  | @again b stable last r c reads seen _ hreply _ _ ih =>
    have hrest := ih (htallied.concat c) hok
    rw [List.append_assoc, List.singleton_append] at hrest
    rw [shown_cons_ok hreply]
    exact hrest

/-- Nothing is read exactly if time is up at once. -/
theorem eq_nil_iff (h : Watching watch flow packetCount deadline b last stable reads seen) :
    reads = [] ↔ deadline ≤ b := by
  cases h with
  | expired hlate => exact iff_of_true rfl hlate
  | failed hfollows => exact iff_of_false (List.cons_ne_nil _ _) (Nat.not_le.2 hfollows.early)
  | settled hfollows => exact iff_of_false (List.cons_ne_nil _ _) (Nat.not_le.2 hfollows.early)
  | again hfollows => exact iff_of_false (List.cons_ne_nil _ _) (Nat.not_le.2 hfollows.early)

end Watching

/-! ### Watching a flow -/

/-- The reads that watching a flow makes, and what it ends with. -/
structure Observed (watch : Watch) (flow : String) (packetCount start : Nat)
    (reads : List (Sample FlowCounters)) (seen : Except RunError Unit) : Prop where
  /-- One read for each interval that has begun before the deadline. -/
  few : reads.length ≤ (watch.duration + (watch.interval - 1)) / watch.interval
  paced : ∀ k r, reads[k]? = some r →
    Follows watch (start + watch.duration) (lastReply start (reads.take k)) r
  none : reads = [] ↔ watch.duration = 0
  /-- The reads before the last one are answered, in time. -/
  timely : ∀ r ∈ reads.dropLast, (∃ c, r.reply = .ok c) ∧ r.ended < start + watch.duration
  /-- By none of them the flow has settled. -/
  unsettled : ∀ n, 0 < n → n < reads.length →
    ¬ SettledBy watch packetCount ((shown reads).take n)
  failed : ∀ e, seen = .error e ↔ reads.getLast?.bind (Sample.failure? flow) = some e
  /-- Without a failure the flow has settled by the last read, or time is up. -/
  finished : seen = .ok () →
    SettledBy watch packetCount (shown reads) ∨ start + watch.duration ≤ lastReply start reads
  /-- With no more intervals than a word can count, none of the numbers of reads without change
  overflows. -/
  words : (watch.duration + (watch.interval - 1)) / watch.interval ≤ 0x100000000 → ∀ n,
    ∃ stable, streakWord? (received ((shown reads).take n)) = some stable ∧
      stable.toNat = streak (received ((shown reads).take n))

/-- There is one read at most for each interval that has begun before the deadline. -/
theorem Watching.length_le_intervals {start : Nat} (hpositive : 0 < watch.interval)
    (h : Watching watch flow packetCount (start + watch.duration) start none 0 reads seen) :
    reads.length ≤ (watch.duration + (watch.interval - 1)) / watch.interval := by
  have henough := le_intervals_mul hpositive watch.duration
  exact h.length_le (by omega)

theorem length_received_shown_le (reads : List (Sample FlowCounters)) (n : Nat) :
    (received ((shown reads).take n)).length ≤ reads.length := by
  rw [received, List.length_reverse, List.length_map, List.length_take, shown]
  exact Nat.le_trans (Nat.min_le_right ..) (List.length_filterMap_le ..)

theorem Watching.observed {start : Nat} (hpositive : 0 < watch.interval)
    (h : Watching watch flow packetCount (start + watch.duration) start none 0 reads seen) :
    Observed watch flow packetCount start reads seen where
  few := h.length_le_intervals hpositive
  paced _ _ hr := h.paced hr
  none := by
    rw [h.eq_nil_iff]
    omega
  timely := h.timely
  unsettled _ hn hlt := h.unsettled .start hn hlt
  failed e := by
    rw [h.failure_eq]
    cases seen <;> simp [errorOf]
  finished := h.finished .start
  words hfits n := streakWord?_eq (Nat.le_trans (length_received_shown_le reads n)
    (Nat.le_trans (h.length_le_intervals hpositive) hfits))

/-- **Watching a flow ends with the first read by which it has settled**, with the first one that
fails, or with the first one that is answered when time is up, and without any read if there is no
time at all.  It ends with the reply to that read. -/
theorem observation_ends (hw : w.Timely) (hpositive : 0 < watch.interval) (flow : String)
    (packetCount : Nat) (held : σ) (s : S) :
    ∃ reads seen,
      ((observe watch flow packetCount : Checked σ Unit).run.perform w none held s).value =
        some seen ∧
      w.now ((observe watch flow packetCount : Checked σ Unit).run.perform w none held s).after =
        lastReply (w.now s) reads ∧
      (observe watch flow packetCount : Checked σ Unit).run.timeline w none held s =
        reads.map (countersRead flow) ∧
      Observed watch flow packetCount (w.now s) reads seen := by
  obtain ⟨reads, seen, s', hgives, hlast, hwatching⟩ :=
    gives_observe (σ := σ) hw hpositive flow packetCount [] s
  obtain ⟨hvalue, htimeline⟩ := hgives.performed held
  have hafter := hgives.after held
  exact ⟨reads, seen, hvalue, hafter ▸ hlast, htimeline, hwatching.observed hpositive⟩

/-- All was sent from the start, and two packets come late; each read takes three milliseconds. -/
def straggling : Nat → (c : Call) → c.Reply × Nat
  | n, .counters _ => (.ok { tx := 10, rx := if n < 2 then 8 else 10 }, 3)
  | _, _ => (.error .unavailable, 0)

/-- A read every ten milliseconds, for a tenth of a second; two reads without change are enough. -/
def steady : Watch := { interval := 10, duration := 100, stablePolls := 2 }

/-- The count that was the same for two reads moves on, and is the same for three from then on. -/
theorem observation_ends_straggling :
    ∃ reads, Observed steady "P" 10 0 reads (.ok ()) ∧ lastReply 0 reads = 65 ∧
      reads.map Sample.begun = [10, 23, 36, 49, 62] := by
  have hpositive : 0 < steady.interval := by decide
  obtain ⟨reads, seen, hvalue, hafter, htimeline, hobserved⟩ :=
    observation_ends (Surroundings.answering_timely straggling) hpositive "P" 10 () (0, 0)
  have hseen : seen = .ok () := Option.some.inj (hvalue.symm.trans rfl)
  have hbegun := (congrArg (List.map TimedCall.begun) htimeline).trans
    (Sample.map_begun_of (.counters "P") reads)
  exact ⟨reads, hseen ▸ hobserved, hafter.symm.trans rfl, hbegun.symm⟩

end TrafficCheck

end RoutePreference
