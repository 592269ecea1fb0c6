import RoutePreference.Proofs.Device.Flows

/-!
# What the counters of flows count

* `Flow.Sound`: no flow receives more than it sends, or sends more than it should;
* `idle_after`: a flow that is not under way stays as it is until it is started;
* `Device.IsRun`: a run of a flow, from its start on, until a flow of its name is started again;
* `Account`, `IsRun.account`: the packets of a run are numbered from zero on, and the counters of
  the flow count them;
* `sent_provenance`: where a packet arrives is decided when it is sent;
* `Device.ForwardsAs`, `IsRun.sentIn_eq`: as long as packets are forwarded the same way, the packets
  of a run do not depend on how many of them are sent at a time;
* `flow_accounting`: the counters of a flow are exact.
-/

namespace RoutePreference

/-- What is true of every flow in every reachable device. -/
structure Flow.Sound (f : Flow) : Prop where
  received : f.counters.rx ≤ f.counters.tx
  sent : f.counters.tx ≤ f.spec.packetCount

/-- What has been sent for a flow, and how its counters account for it. -/
structure Account (spec : FlowSpec) (sent : List Packet) (f : Flow) : Prop where
  of_spec : f.spec = spec
  numbers : sent.map (·.seq) = List.range f.counters.tx
  addressed : ∀ p ∈ sent, p.dst = spec.range.nth? p.seq
  received : f.counters.rx = sent.countP spec.receives

namespace Device

variable {settings : Settings} {d d' : Device} {name : String} {spec : FlowSpec} {f : Flow}

/-! ### Every flow of every device -/

theorem sound_advance (d : Device) (hf : f.Sound) : (d.advance f).Sound := by
  have hcount := counters_advance d f
  have hbatch := batch_le d f
  have hreceived := List.countP_le_length (p := f.spec.receives) (l := d.packets f)
  obtain ⟨hrx, htx⟩ := hf
  constructor
  · rw [hcount]
    dsimp only
    omega
  · show (d.advance f).counters.tx ≤ f.spec.packetCount
    rw [hcount, length_packets]
    dsimp only
    omega

/-- No flow receives more than it sends, or sends more than it should. -/
theorem Reachable.flow_sound (hd : Reachable settings d) :
    ∀ name f, d.flow? name = some f → f.Sound :=
  hd.forall_flow (fun _ _ => ⟨Nat.le_refl 0, Nat.zero_le _⟩) (fun _ h => ⟨h.received, h.sent⟩)
    fun d _ h _ => sound_advance d h

/-! ### Between two starts -/

/-- Whether no flow of the name is started in the course of a history. -/
def NoStart (d : Device) (name : String) (h : List Event) : Prop :=
  ∀ h' e, h' ++ [e] <+: h → ¬ (d.after h').Starts name e

theorem NoStart.head {e : Event} {h : List Event} (hno : d.NoStart name (e :: h)) :
    ¬ d.Starts name e := hno [] e (by simp)

theorem NoStart.tail {e : Event} {h : List Event} (hno : d.NoStart name (e :: h)) :
    (d.step e).NoStart name h := by
  intro h' e' hpre
  exact hno (e :: h') e' (List.cons_prefix_cons.2 ⟨rfl, hpre⟩)

theorem idle_step (hd : Reachable settings d) (hf : d.flow? name = some f)
    (hidle : f.transmission = none) {e : Event} (hno : ¬ d.Starts name e) :
    (d.step e).flow? name = some f := by
  have hstep := flow_step hd.named e name
  generalize (d.step e).flow? name = x at hstep ⊢
  cases hstep with
  | kept => exact hf
  | started _ _ hs => exact absurd hs hno
  | stopped _ hfound =>
    obtain rfl := Option.some.inj (hfound.symm.trans hf)
    rw [← hidle]
  | sends _ hfound hrun =>
    obtain rfl := Option.some.inj (hfound.symm.trans hf)
    rw [hidle] at hrun
    cases hrun

/-- A flow that is not under way stays as it is until it is started. -/
theorem idle_after (hd : Reachable settings d) (hf : d.flow? name = some f)
    (hidle : f.transmission = none) {h : List Event} (hno : d.NoStart name h) :
    (d.after h).flow? name = some f := by
  induction h generalizing d with
  | nil => exact hf
  | cons e h ih => exact ih (hd.step e) (idle_step hd hf hidle hno.head) hno.tail

/-! ### What a run sends -/

theorem account_begun (spec : FlowSpec) (number : Nat) : Account spec [] (begun spec number) where
  of_spec := rfl
  numbers := rfl
  addressed := fun p hp => by cases hp
  received := rfl

theorem account_advance {sent : List Packet} (d : Device) (h : Account spec sent f) :
    Account spec (sent ++ d.packets f) (d.advance f) := by
  have hcount := counters_advance d f
  obtain ⟨rfl, hnumbers, haddressed, hreceived⟩ := h
  refine ⟨rfl, ?_, ?_, ?_⟩
  · have hnew : (d.packets f).map (·.seq) = List.range' f.counters.tx (d.batch f) := by
      simp [packets, FlowSpec.packet, Function.comp_def]
    rw [List.map_append, hnumbers, hnew, hcount, length_packets, List.range_eq_range',
      List.range_eq_range', ← List.range'_append_1, Nat.zero_add]
  · intro p hp
    rcases List.mem_append.1 hp with hp | hp
    · exact haddressed p hp
    · obtain ⟨seq, -, rfl⟩ := List.mem_map.1 hp
      rfl
  · rw [hcount, List.countP_append, hreceived]

/-- One event, as long as it is no start. -/
theorem account_step {sent : List Packet} (hd : Reachable settings d)
    (hf : d.flow? name = some f) (h : Account spec sent f) {e : Event}
    (hno : ¬ d.Starts name e) :
    ∃ f', (d.step e).flow? name = some f' ∧ Account spec (sent ++ d.sentAt name e) f' := by
  have hstep := flow_step hd.named e name
  generalize (d.step e).flow? name = x at hstep ⊢
  cases hstep with
  | kept _ hsent => exact ⟨f, hf, by rwa [hsent, List.append_nil]⟩
  | started _ _ hs => exact absurd hs hno
  | @stopped _ f' _ hfound hsent =>
    obtain rfl : f' = f := Option.some.inj (hfound.symm.trans hf)
    refine ⟨_, rfl, ?_⟩
    rw [hsent, List.append_nil]
    exact ⟨h.of_spec, h.numbers, h.addressed, h.received⟩
  | @sends _ f' _ hfound _ hsent =>
    obtain rfl : f' = f := Option.some.inj (hfound.symm.trans hf)
    refine ⟨_, rfl, ?_⟩
    rw [hsent]
    exact account_advance d h

theorem account_after {sent : List Packet} (hd : Reachable settings d)
    (hf : d.flow? name = some f) (hacc : Account spec sent f) {h : List Event}
    (hno : d.NoStart name h) :
    ∃ f', (d.after h).flow? name = some f' ∧ Account spec (sent ++ d.sentIn name h) f' := by
  induction h generalizing d f sent with
  | nil => exact ⟨f, hf, by rwa [sentIn, List.append_nil]⟩
  | cons e h ih =>
    obtain ⟨f', hf', hacc'⟩ := account_step hd hf hacc hno.head
    obtain ⟨f'', hf'', hacc''⟩ := ih (hd.step e) hf' hacc' hno.tail
    refine ⟨f'', hf'', ?_⟩
    rwa [sentIn, ← List.append_assoc]

/-- A run of a flow: the device it is started at, and what happens from there on. -/
structure IsRun (settings : Settings) (spec : FlowSpec) (d : Device) (h : List Event) : Prop where
  begins : ∃ d₀, Reachable settings d₀ ∧ d₀.startFlow spec = .ok d
  alone : d.NoStart spec.name h

theorem IsRun.starts {h : List Event} (hrun : IsRun settings spec d h) :
    Reachable settings d ∧ ∃ n, d.flow? spec.name = some (begun spec n) := by
  obtain ⟨d₀, hd₀, hok⟩ := hrun.begins
  have hstep : d₀.step (.serve 0 (.startFlow spec)) = d := by
    show (d₀.settled (d₀.startFlow spec)).1 = d
    rw [hok]
    rfl
  obtain ⟨-, rfl⟩ := startFlow_ok hok
  refine ⟨hstep ▸ hd₀.step _, d₀.generator.started, ?_⟩
  rw [flow?_setFlow]
  exact if_pos rfl

/-- The packets of a run are numbered from zero on, and the counters of the flow count them. -/
theorem IsRun.account {h : List Event} (hrun : IsRun settings spec d h) :
    ∃ f, (d.after h).flow? spec.name = some f ∧ Account spec (d.sentIn spec.name h) f := by
  obtain ⟨hd, n, hf⟩ := hrun.starts
  exact account_after hd hf (account_begun spec n) hrun.alone

/-! ### Where the packets arrive -/

theorem mem_sentAt {p : Packet} {e : Event} (hp : p ∈ d.sentAt name e) :
    ∃ f, d.flow? name = some f ∧ f.transmission.isSome ∧
      p = f.spec.packet (d.forward? f.spec.source) p.seq := by
  unfold sentAt at hp
  split at hp
  · split at hp
    · next f hf =>
      split at hp
      · next hcond =>
        obtain ⟨seq, -, rfl⟩ := List.mem_map.1 hp
        exact ⟨f, hf, hcond.2, rfl⟩
      · cases hp
    · cases hp
  · cases hp

/-- Where a packet arrives is decided when it is sent, by a device that has the flow under way. -/
theorem sent_provenance {sent : List Packet} (hd : Reachable settings d)
    (hf : d.flow? name = some f) (hacc : Account spec sent f) {h : List Event}
    (hno : d.NoStart name h) {p : Packet} (hp : p ∈ d.sentIn name h) :
    ∃ h', h' <+: h ∧ ((d.after h').underWay? name).isSome ∧
      p = spec.packet ((d.after h').forward? spec.source) p.seq := by
  induction h generalizing d f sent with
  | nil => cases hp
  | cons e h ih =>
    rcases List.mem_append.1 hp with hp | hp
    · obtain ⟨f', hf', hrunning, heq⟩ := mem_sentAt hp
      obtain rfl : f' = f := Option.some.inj (hf'.symm.trans hf)
      refine ⟨[], List.nil_prefix, ?_, hacc.of_spec ▸ heq⟩
      simpa [underWay?, hf] using hrunning
    · obtain ⟨f', hf', hacc'⟩ := account_step hd hf hacc hno.head
      obtain ⟨h', hpre, hrest⟩ := ih (hd.step e) hf' hacc' hno.tail hp
      exact ⟨e :: h', List.cons_prefix_cons.2 ⟨rfl, hpre⟩, hrest⟩

/-- Whether packets to the addresses of a flow are forwarded as given, whenever the flow is under
way. -/
def ForwardsAs (d : Device) (spec : FlowSpec) (forward : Addr → Option String) (h : List Event) :
    Prop :=
  ∀ h', h' <+: h → ((d.after h').underWay? spec.name).isSome →
    ∀ seq a, spec.range.nth? seq = some a → (d.after h').forward? spec.source a = forward a

/-- As long as packets are forwarded the same way, it doesn't matter how many of them are sent at a
time. -/
theorem IsRun.sentIn_eq {h : List Event} {forward : Addr → Option String}
    (hrun : IsRun settings spec d h) (hforwards : d.ForwardsAs spec forward h)
    (hf : (d.after h).flow? spec.name = some f) :
    d.sentIn spec.name h = (List.range f.counters.tx).map (spec.packet forward) := by
  obtain ⟨hd, n, hbegun⟩ := hrun.starts
  obtain ⟨f', hf', hacc⟩ := hrun.account
  obtain rfl : f = f' := Option.some.inj (hf.symm.trans hf')
  -- Each packet is determined by its number; so the numbers, which are known, determine them all.
  have hpacket : ∀ p ∈ d.sentIn spec.name h, spec.packet forward p.seq = p := by
    intro p hp
    obtain ⟨h', hpre, hunder, heq⟩ :=
      sent_provenance hd hbegun (account_begun spec n) hrun.alone hp
    have hsame : spec.packet ((d.after h').forward? spec.source) p.seq =
        spec.packet forward p.seq := FlowSpec.packet_congr (hforwards h' hpre hunder p.seq)
    exact hsame.symm.trans heq.symm
  calc d.sentIn spec.name h
      = (d.sentIn spec.name h).map id := (List.map_id _).symm
    _ = (d.sentIn spec.name h).map (spec.packet forward ∘ (·.seq)) :=
        List.map_congr_left fun p hp => (hpacket p hp).symm
    _ = ((d.sentIn spec.name h).map (·.seq)).map (spec.packet forward) := List.map_map.symm
    _ = (List.range f.counters.tx).map (spec.packet forward) := by rw [hacc.numbers]

theorem IsRun.received_eq {h : List Event} {forward : Addr → Option String}
    (hrun : IsRun settings spec d h) (hforwards : d.ForwardsAs spec forward h)
    (hf : (d.after h).flow? spec.name = some f) :
    f.counters.rx = (List.range f.counters.tx).countP fun seq => spec.Reaches forward seq := by
  obtain ⟨f', hf', hacc⟩ := hrun.account
  obtain rfl : f = f' := Option.some.inj (hf.symm.trans hf')
  rw [hacc.received, hrun.sentIn_eq hforwards hf, List.countP_map]
  refine List.countP_congr fun seq _ => ?_
  simp [FlowSpec.receives_packet]

/-! ### Ticks -/

/-- Only ticks of the named flow. -/
def ticks (name : String) (n : Nat) : List Event := List.replicate n (.serve 0 (.tick name))

theorem noStart_ticks (d : Device) (name flow : String) (n : Nat) :
    d.NoStart name (ticks flow n) := by
  rintro h' e hpre ⟨ticket, spec, d', rfl, -, -⟩
  have hmem := hpre.subset (List.mem_append_right h' (List.mem_singleton.2 rfl))
  cases List.eq_of_mem_replicate hmem

theorem forward?_transmit (d : Device) (name source : String) :
    (d.transmit name).forward? source = d.forward? source := by
  unfold transmit
  split
  · rfl
  · split <;> rfl

theorem forward?_startFlow (h : d.startFlow spec = .ok d') (source : String) :
    d'.forward? source = d.forward? source := by
  obtain ⟨-, rfl⟩ := startFlow_ok h
  rfl

theorem forward?_after_ticks (d : Device) (flow source : String) (n : Nat) :
    (d.after (ticks flow n)).forward? source = d.forward? source := by
  induction n generalizing d with
  | zero => rfl
  | succ n ih =>
    rw [ticks, List.replicate_succ, after_cons]
    exact (ih _).trans (forward?_transmit d flow source)

/-- Neither a start nor ticks change how packets are forwarded. -/
theorem forwardsAs_ticks (h : d.startFlow spec = .ok d') (flow : String) (n : Nat) :
    d'.ForwardsAs spec (d.forward? spec.source) (ticks flow n) := by
  intro h' hpre _ seq a _
  obtain ⟨-, hticks⟩ := List.prefix_replicate_iff.1 hpre
  have hafter := forward?_after_ticks d' flow spec.source h'.length
  rw [ticks, ← hticks, forward?_startFlow h] at hafter
  rw [hafter]

/-! ### The counters of flows -/

/-- What a run comes to that sends all packets of its flow, while they are forwarded as given. -/
def CompleteRun (settings : Settings) (spec : FlowSpec) (forward : Addr → Option String)
    (c : FlowCounters) : Prop :=
  ∃ d h f, IsRun settings spec d h ∧ d.ForwardsAs spec forward h ∧
    (d.after h).flow? spec.name = some f ∧ f.counters = c ∧ c.tx = spec.packetCount

theorem CompleteRun.eq {forward : Addr → Option String} {c : FlowCounters}
    (hrun : CompleteRun settings spec forward c) :
    c = { tx := spec.packetCount
          rx := (List.range spec.packetCount).countP fun seq => spec.Reaches forward seq } := by
  obtain ⟨d, h, f, hrun, hforwards, hf, rfl, hall⟩ := hrun
  have hrx := hrun.received_eq hforwards hf
  rw [hall] at hrx
  rw [← hrx, ← hall]

/-- **The counters of flows are exact**: a flow receives at most what it sends, and sends at most
what it should; its counters stay as they are while it is not under way, and are set to zero when
it is started; the packets of a run are numbered from zero on, without gaps, and each is sent to
the address of its number; those are counted as received that arrive at a receiver; and if packets
are forwarded the same way all the time, neither the rate of the flow nor the length of a tick
makes a difference in the end. -/
theorem flow_accounting (hd : Reachable settings d) :
    (∀ name f, d.flow? name = some f → f.counters.rx ≤ f.counters.tx ∧
      f.counters.tx ≤ f.spec.packetCount ∧
      (f.transmission = none → ∀ h, d.NoStart name h → (d.after h).flow? name = some f)) ∧
    (∀ spec d', d.startFlow spec = .ok d' → ∀ h, d'.NoStart spec.name h →
      (∃ f, d'.flow? spec.name = some f ∧ f.counters = .zero) ∧
      ∃ f, (d'.after h).flow? spec.name = some f ∧ Account spec (d'.sentIn spec.name h) f ∧
        ∀ forward, d'.ForwardsAs spec forward h →
          d'.sentIn spec.name h = (List.range f.counters.tx).map (spec.packet forward) ∧
          f.counters.rx =
            (List.range f.counters.tx).countP fun seq => spec.Reaches forward seq) ∧
    (∀ settings' spec rate forward c c', CompleteRun settings spec forward c →
      CompleteRun settings' { spec with rate } forward c' → c = c') := by
  refine ⟨fun name f hf => ?_, fun spec d' hok h hno => ?_,
    fun _ spec rate forward c c' hc hc' => ?_⟩
  · obtain ⟨hreceived, hsent⟩ := hd.flow_sound name f hf
    exact ⟨hreceived, hsent, fun hidle h hno => idle_after hd hf hidle hno⟩
  · have hrun : IsRun settings spec d' h := ⟨⟨d, hd, hok⟩, hno⟩
    obtain ⟨-, n, hbegun⟩ := hrun.starts
    obtain ⟨f, hf, hacc⟩ := hrun.account
    refine ⟨⟨begun spec n, hbegun, rfl⟩, f, hf, hacc, fun forward hforwards => ?_⟩
    exact ⟨hrun.sentIn_eq hforwards hf, hrun.received_eq hforwards hf⟩
  · rw [hc.eq, hc'.eq]
    rfl

/-- A flow of three packets from the first interface of the test equipment back to itself. -/
def looped (rate : Nat) : FlowSpec :=
  { name := "F", source := (Link.numbered 1).ate.name, receivers := [(Link.numbered 1).ate.name]
    range := { min := (Link.numbered 1).ate.ipv4, max := (Link.numbered 1).ate.ipv4, count := 1 }
    packetCount := 3, rate }

/-- The testbed on which it is started. -/
def loopedTestbed (rate : Nat) : Device := (linked.serve 0 (.startFlow (looped rate))).1

theorem startFlow_of_isOk (h : (d.startFlow spec).isOk = true) :
    d.startFlow spec = .ok (d.serve 0 (.startFlow spec)).1 := by
  show d.startFlow spec = .ok (d.settled (d.startFlow spec)).1
  cases hok : d.startFlow spec with
  | error e =>
    rw [hok] at h
    cases h
  | ok d' => rfl

/-- Two ticks of two packets, and three ticks of one packet. -/
theorem flow_accounting_looped :
    ∃ f f', ((loopedTestbed 200).after (ticks "F" 2)).flow? "F" = some f ∧
      ((loopedTestbed 100).after (ticks "F" 3)).flow? "F" = some f' ∧
      Account (looped 200) ((loopedTestbed 200).sentIn "F" (ticks "F" 2)) f ∧
      f.counters = { tx := 3, rx := 3 } ∧ f.counters = f'.counters := by
  have hfast : linked.startFlow (looped 200) = .ok (loopedTestbed 200) :=
    startFlow_of_isOk (by decide +kernel)
  have hslow : linked.startFlow (looped 100) = .ok (loopedTestbed 100) :=
    startFlow_of_isOk (by decide +kernel)
  obtain ⟨-, hruns, hcomplete⟩ := flow_accounting reachable_linked
  obtain ⟨-, f, hf, hacc, -⟩ := hruns _ _ hfast (ticks "F" 2) (noStart_ticks _ _ _ _)
  obtain ⟨-, f', hf', -⟩ := hruns _ _ hslow (ticks "F" 3) (noStart_ticks _ _ _ _)
  have hall : ((((loopedTestbed 200).after (ticks "F" 2)).flow? "F").map Flow.counters) =
      some { tx := 3, rx := 3 } := by decide +kernel
  have hall' : ((((loopedTestbed 100).after (ticks "F" 3)).flow? "F").map Flow.counters) =
      some { tx := 3, rx := 3 } := by decide +kernel
  have hc : f.counters = { tx := 3, rx := 3 } :=
    Option.some.inj ((congrArg (Option.map Flow.counters) hf).symm.trans hall)
  have hc' : f'.counters = { tx := 3, rx := 3 } :=
    Option.some.inj ((congrArg (Option.map Flow.counters) hf').symm.trans hall')
  refine ⟨f, f', hf, hf', hacc, hc, ?_⟩
  refine hcomplete .standard (looped 200) 100 (linked.forward? (looped 200).source) _ _ ?_ ?_
  · exact ⟨_, _, f, ⟨⟨_, reachable_linked, hfast⟩, noStart_ticks _ _ _ _⟩,
      forwardsAs_ticks hfast "F" 2, hf, rfl, by rw [hc]; rfl⟩
  · exact ⟨_, _, f', ⟨⟨_, reachable_linked, hslow⟩, noStart_ticks _ _ _ _⟩,
      forwardsAs_ticks hslow "F" 3, hf', rfl, by rw [hc']; rfl⟩

end Device

end RoutePreference
