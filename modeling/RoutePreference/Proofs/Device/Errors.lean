import RoutePreference.Proofs.Device.InPlace

/-!
# Errors change nothing

* `Status.isFailed`, `Answer.isError`: operations that failed, and requests that were refused;
* `Device.kept`: the operations of a list that didn't fail;
* `Device.Conduct`: a way of going about requests, as the device says it or with changes in place;
* `Device.Harmless`: what is expected of errors;
* `Device.Trims`: devices that owe the same, but for the failed results of one request;
* `harmless`, `harmless_inPlace`: errors are harmless in either way;
* `errors_change_nothing`: so they are whatever happened before.

That an operation failed can be seen in one place only, its result.  So a list of operations is
compared with what is left of it by what everybody is told ever after.
-/

namespace RoutePreference

/-- Whether an operation failed. -/
def Status.isFailed : Status → Bool
  | failed _ => true
  | _ => false

/-- Whether an operation failed already in the routing table. -/
def Provisional.isFailed (p : Provisional) : Bool := p.result.status.isFailed

namespace Answer

/-- Whether a request was refused. -/
def isError : Answer → Bool
  | done (.error _) | results (.error _) | counters (.error _) => true
  | _ => false

/-- The answer without the results of operations that failed. -/
def withoutFailed : Answer → Answer
  | results (.ok rs) => results (.ok (rs.filter fun r => !r.status.isFailed))
  | a => a

end Answer

namespace Device

variable {d d' : Device} {ticket : Nat}

/-- The operations that, by their results, didn't fail. -/
def kept (ops : List Operation) (rs : List Provisional) : List Operation :=
  ((ops.zip rs).filter fun x => !x.2.isFailed).map (·.1)

/-- What is said to somebody, without the failed results of the request with the ticket. -/
def trimReply (ticket : Nat) (x : Nat × Answer) : Nat × Answer :=
  if x.1 = ticket then (x.1, x.2.withoutFailed) else x

/-- A way of going about requests and operations. -/
structure Conduct where
  perform : Bool → Device → Operation → Device × Provisional
  performAll : Bool → Device → List Operation → Device × List Provisional
  serve : Device → Nat → Request → Device × Option Answer
  after : Device → List Event → Device
  repliesIn : Device → List Event → List (Nat × Answer)

/-- What the device says. -/
def conduct : Conduct := { perform, performAll, serve, after, repliesIn }

/-- The same with changes in place. -/
def conductInPlace : Conduct where
  perform := InPlace.perform
  performAll := InPlace.performAll
  serve := InPlace.serve
  after := InPlace.after
  repliesIn := InPlace.repliesIn

/-- What is expected of errors at a device, where some devices count as the same. -/
structure Harmless (c : Conduct) (Same : Device → Device → Prop) (d : Device) : Prop where
  /-- A request that is refused changes nothing. -/
  refused {ticket : Nat} {r : Request} {a : Answer} :
    (c.serve d ticket r).2 = some a → a.isError = true → (c.serve d ticket r).1 = d
  /-- Nor does an operation that fails. -/
  failed {primary : Bool} {op : Operation} :
    (c.perform primary d op).2.isFailed = true → Same d (c.perform primary d op).1
  /-- Without the operations that fail, all others have the same results and come to the same. -/
  batch {primary : Bool} {ops rest : List Operation} :
    rest = kept ops (c.performAll primary d ops).2 →
      (c.performAll primary d rest).2 =
        (c.performAll primary d ops).2.filter (fun p => !p.isFailed) ∧
      Same (c.performAll primary d ops).1 (c.performAll primary d rest).1
  /-- Whatever happens afterwards, everybody is told the same but for the failed results, and the
  devices are alike. -/
  told {ticket client : Nat} {ops rest : List Operation} {l : List Event} :
    d.owedTo ticket = [] → (∀ e ∈ l, ¬ e.IsFor ticket) →
    rest = kept ops (c.performAll (d.isPrimary client) d ops).2 →
      c.repliesIn d (.serve ticket (.modify client rest) :: l) =
        (c.repliesIn d (.serve ticket (.modify client ops) :: l)).map (trimReply ticket) ∧
      Alike (c.after d (.serve ticket (.modify client ops) :: l))
        (c.after d (.serve ticket (.modify client rest) :: l))

/-! ### Refused requests and failed operations -/

theorem settled_of_isError {r : Except Refusal Device} {a : Answer}
    (ha : (d.settled r).2 = some a) (herr : a.isError = true) : (d.settled r).1 = d := by
  cases r with
  | error e => rfl
  | ok d' =>
    cases ha
    cases herr

/-- Operations are refused as a whole only if there is no such session. -/
theorem closed_of_isError {client : Nat} {ops : List Operation} {a : Answer}
    (ha : (d.serve ticket (.modify client ops)).2 = some a) (herr : a.isError = true) :
    d.sessions.get? client = none := by
  change (d.submit ticket client ops).2.map Answer.results = some a at ha
  unfold submit at ha
  cases hopen : d.sessions.get? client with
  | none => rfl
  | some params =>
    rw [hopen] at ha
    dsimp only at ha
    cases hmode : params.ackMode <;> rw [hmode] at ha <;> cases ha
    cases herr

theorem serve_of_isError {r : Request} {a : Answer} (ha : (d.serve ticket r).2 = some a)
    (herr : a.isError = true) : (d.serve ticket r).1 = d := by
  cases r with
  | openSession params =>
    cases ha
    cases herr
  | modify client ops =>
    show (d.submit ticket client ops).1 = d
    rw [submit, closed_of_isError ha herr]
  | read path => rfl
  | counters name => rfl
  | tick name => cases ha
  | _ => exact settled_of_isError ha herr

theorem perform_of_isFailed {primary : Bool} {op : Operation}
    (h : (d.perform primary op).2.isFailed = true) : (d.perform primary op).1 = d := by
  unfold perform at h ⊢
  split
  · next hok =>
    rw [hok] at h
    cases h
  · rfl

/-! ### What is left of a list of operations -/

theorem kept_cons (op : Operation) (ops : List Operation) (r : Provisional)
    (rs : List Provisional) :
    kept (op :: ops) (r :: rs) = if r.isFailed then kept ops rs else op :: kept ops rs := by
  cases hr : r.isFailed <;> simp [kept, hr]

/-- Operations that fail may be left out. -/
theorem performAll_kept {primary : Bool} {ops rest : List Operation}
    (hrest : rest = kept ops (d.performAll primary ops).2) :
    (d.performAll primary rest).2 = (d.performAll primary ops).2.filter (fun p => !p.isFailed) ∧
      (d.performAll primary rest).1 = (d.performAll primary ops).1 := by
  subst hrest
  induction ops generalizing d with
  | nil => exact ⟨rfl, rfl⟩
  | cons op ops ih =>
    obtain ⟨hresults, hend⟩ := ih (d := (d.perform primary op).1)
    have hall : d.performAll primary (op :: ops) =
      (((d.perform primary op).1.performAll primary ops).1,
        (d.perform primary op).2 :: ((d.perform primary op).1.performAll primary ops).2) := rfl
    rw [hall, kept_cons]
    dsimp only
    cases hop : (d.perform primary op).2.isFailed with
    | true =>
      -- the others begin where this one began
      rw [perform_of_isFailed hop] at hresults hend ⊢
      rw [if_pos rfl, List.filter_cons_of_neg (by simp [hop])]
      exact ⟨hresults, hend⟩
    | false =>
      rw [if_neg Bool.false_ne_true, List.filter_cons_of_pos (by simp [hop])]
      exact ⟨List.cons_eq_cons.2 ⟨rfl, hresults⟩, hend⟩

/-! ### What is owed and what is said -/

/-- What is owed, without the failed results of the request with the ticket. -/
def trimOwed (ticket : Nat) (o : OwedReply) : OwedReply :=
  if o.ticket = ticket then { o with results := o.results.filter fun p => !p.isFailed } else o

/-- Whether two devices are alike and owe the same, but for the failed results of the request with
the ticket. -/
structure Trims (ticket : Nat) (d d' : Device) : Prop where
  alike : d.Alike d'
  owed : d'.owed = d.owed.map (trimOwed ticket)

theorem map_trimOwed {l : List OwedReply} (h : ∀ o ∈ l, o.ticket ≠ ticket) :
    l.map (trimOwed ticket) = l :=
  (List.map_congr_left fun o ho => if_neg (h o ho)).trans (List.map_id' l)

theorem map_trimReply {l : List (Nat × Answer)} (h : ∀ x ∈ l, x.1 ≠ ticket) :
    l.map (trimReply ticket) = l :=
  (List.map_congr_left fun x hx => if_neg (h x hx)).trans (List.map_id' l)

/-- Looking at the forwarding table makes no failure of a success, nor the other way round. -/
theorem isFailed_settleResult (d : Device) (p : Provisional) :
    (d.settleResult p).status.isFailed = p.isFailed := by
  unfold settleResult
  split
  · next h =>
    have hs : p.result.status = .ribProgrammed := by simp_all
    rw [Provisional.isFailed, hs]
    rfl
  · rfl

theorem trimReply_settled (d : Device) (o : OwedReply) :
    trimReply ticket (o.ticket, .results (.ok (o.results.map d.settleResult))) =
      ((trimOwed ticket o).ticket,
        .results (.ok ((trimOwed ticket o).results.map d.settleResult))) := by
  unfold trimReply trimOwed
  dsimp only
  split
  · have hsame : ∀ p ∈ o.results, (!(d.settleResult p).status.isFailed) = !p.isFailed :=
      fun p _ => by rw [isFailed_settleResult]
    rw [Answer.withoutFailed, List.filter_map]
    exact congrArg (fun l => (o.ticket, Answer.results (.ok (l.map d.settleResult))))
      (List.filter_congr hsame)
  · rfl

namespace Trims

theorem process (h : Trims ticket d d') :
    d'.process.2 = d.process.2.map (trimReply ticket) ∧ Trims ticket d.process.1 d'.process.1 := by
  obtain ⟨⟨aft, owed, hsame⟩, howed⟩ := h
  obtain rfl : owed = d.owed.map (trimOwed ticket) := howed
  refine ⟨?_, .intro (d := d.process.1) aft [] hsame, rfl⟩
  show ((d.owed.map _).map _).map _ = ((d.owed.map _).map _).map _
  rw [List.map_map, List.map_map, List.map_map, List.map_map]
  exact List.map_congr_left fun o _ => (trimReply_settled _ o).symm

/-- Events that aren't for the request keep it so, and say the same. -/
theorem step (h : Trims ticket d d') {e : Event} (he : ¬ e.IsFor ticket) :
    d'.replies e = (d.replies e).map (trimReply ticket) ∧
      Trims ticket (d.step e) (d'.step e) := by
  cases e with
  | process => exact h.process
  | serve t r =>
    obtain ⟨hanswer, hend⟩ := h.alike.serve t r
    obtain ⟨l, hl, hl'⟩ := h.alike.withheld t r
    have hsaid : ∀ x ∈ d.replies (.serve t r), x.1 ≠ ticket := by
      rintro ⟨t', a⟩ hx rfl
      have ha : a ∈ d.repliesTo t' [.serve t r] :=
        mem_repliesTo_iff.2 (List.mem_append_left _ hx)
      rw [repliesTo_other he] at ha
      cases ha
    have hwithheld : ∀ o ∈ l, o.ticket ≠ ticket := by
      have howed := owedTo_other (d := d) he
      change (d.serve t r).1.owedTo ticket = _ at howed
      rw [owedTo, hl, List.filter_append, List.map_append, owedTo] at howed
      simpa using howed
    refine ⟨?_, hend, ?_⟩
    · rw [map_trimReply hsaid, replies, hanswer, replies]
    · show (d'.serve t r).1.owed = (d.serve t r).1.owed.map _
      rw [hl, hl', h.owed, List.map_append, map_trimOwed hwithheld]

theorem after (h : Trims ticket d d') {l : List Event} (hother : ∀ e ∈ l, ¬ e.IsFor ticket) :
    d'.repliesIn l = (d.repliesIn l).map (trimReply ticket) ∧
      Trims ticket (d.after l) (d'.after l) := by
  induction l generalizing d d' with
  | nil => exact ⟨rfl, h⟩
  | cons e l ih =>
    obtain ⟨hsaid, hnext⟩ := h.step (hother e List.mem_cons_self)
    obtain ⟨hrest, hend⟩ := ih hnext fun e' he' => hother e' (List.mem_cons_of_mem _ he')
    refine ⟨?_, hend⟩
    rw [repliesIn, hsaid, hrest, repliesIn, List.map_append]

end Trims

section Rest

variable {client : Nat} {ops rest : List Operation}

theorem trims_modify (hnew : d.owedTo ticket = [])
    (hrest : rest = kept ops (d.performAll (d.isPrimary client) ops).2) :
    d.replies (.serve ticket (.modify client rest)) =
        (d.replies (.serve ticket (.modify client ops))).map (trimReply ticket) ∧
      Trims ticket (d.step (.serve ticket (.modify client ops)))
        (d.step (.serve ticket (.modify client rest))) := by
  obtain ⟨hresults, hend⟩ := performAll_kept hrest
  have howed : (d.performAll (d.isPrimary client) ops).1.owed = d.owed :=
    (sameUse_performAll _ d ops).owed
  have hold : d.owed.map (trimOwed ticket) = d.owed := map_trimOwed (owedTo_eq_nil_iff.1 hnew)
  show ((d.submit ticket client rest).2.map Answer.results).toList.map _ =
      (((d.submit ticket client ops).2.map Answer.results).toList.map _).map _ ∧
    Trims ticket (d.submit ticket client ops).1 (d.submit ticket client rest).1
  unfold submit
  cases d.sessions.get? client with
  | none => exact ⟨by simp [trimReply, Answer.withoutFailed], .refl d, hold.symm⟩
  | some params =>
    dsimp only
    rw [hresults, hend]
    cases params.ackMode with
    | rib =>
      refine ⟨?_, .refl _, ?_⟩
      · simp [trimReply, Answer.withoutFailed, List.filter_map, Provisional.isFailed,
          Function.comp_def]
      · rw [howed, hold]
    | ribAndFib =>
      refine ⟨rfl, (Alike.refl _).owing _ _ 1, ?_⟩
      show _ ++ _ = List.map _ (_ ++ _)
      rw [howed, List.map_append, hold, List.map_singleton, trimOwed, if_pos rfl]

/-- **What is left of a list of operations** has the same consequences as all of them. -/
theorem repliesIn_kept {l : List Event} (hnew : d.owedTo ticket = [])
    (hother : ∀ e ∈ l, ¬ e.IsFor ticket)
    (hrest : rest = kept ops (d.performAll (d.isPrimary client) ops).2) :
    d.repliesIn (.serve ticket (.modify client rest) :: l) =
        (d.repliesIn (.serve ticket (.modify client ops) :: l)).map (trimReply ticket) ∧
      Alike (d.after (.serve ticket (.modify client ops) :: l))
        (d.after (.serve ticket (.modify client rest) :: l)) := by
  obtain ⟨hsaid, hstep⟩ := trims_modify hnew hrest
  obtain ⟨hlater, hend⟩ := hstep.after hother
  refine ⟨?_, hend.alike⟩
  rw [repliesIn, hsaid, hlater, repliesIn, List.map_append]

end Rest

/-! ### Errors are harmless -/

/-- **Errors are harmless** at a device. -/
theorem harmless (d : Device) : Harmless conduct Eq d where
  refused := serve_of_isError
  failed h := (perform_of_isFailed h).symm
  batch hrest := (performAll_kept hrest).imp_right Eq.symm
  told := repliesIn_kept

theorem serve_inPlace_of_isError {r : Request} {a : Answer}
    (ha : (InPlace.serve d ticket r).2 = some a) (herr : a.isError = true) :
    (InPlace.serve d ticket r).1 = d := by
  rw [(serve_inPlace (.refl d) ticket r).1] at ha
  by_cases hm : ∃ client ops, r = .modify client ops
  · obtain ⟨client, ops, rfl⟩ := hm
    show (InPlace.submit d ticket client ops).1 = d
    rw [InPlace.submit, closed_of_isError ha herr]
  · rw [serve_inPlace_of_ne_modify ticket d fun client ops hr => hm ⟨client, ops, hr⟩]
    exact serve_of_isError ha herr

/-- **So they are** where changes are made in place. -/
theorem harmless_inPlace (d : Device) : Harmless conductInPlace Matches d where
  refused := serve_inPlace_of_isError
  failed {primary op} h := by
    obtain ⟨hresult, hsame⟩ := perform_inPlace (.refl d) primary op
    change (InPlace.perform primary d op).2.isFailed = true at h
    rw [hresult] at h
    rwa [perform_of_isFailed h] at hsame
  batch {primary ops rest} hrest := by
    obtain ⟨hall, hallEnd⟩ := performAll_inPlace (.refl d) primary ops
    obtain ⟨hsome, hsomeEnd⟩ := performAll_inPlace (.refl d) primary rest
    change rest = kept ops (InPlace.performAll primary d ops).2 at hrest
    rw [hall] at hrest
    obtain ⟨hresults, hsame⟩ := performAll_kept hrest
    rw [hsame] at hsomeEnd
    refine ⟨?_, hallEnd.symm.trans hsomeEnd⟩
    show (InPlace.performAll primary d rest).2 = (InPlace.performAll primary d ops).2.filter _
    rw [hsome, hresults, hall]
  told {ticket client ops rest l} hnew hother hrest := by
    obtain ⟨hall, hallEnd⟩ := after_inPlace (.refl d) (.serve ticket (.modify client ops) :: l)
    obtain ⟨hsome, hsomeEnd⟩ := after_inPlace (.refl d) (.serve ticket (.modify client rest) :: l)
    change rest = kept ops (InPlace.performAll (d.isPrimary client) d ops).2 at hrest
    rw [(performAll_inPlace (.refl d) _ ops).1] at hrest
    obtain ⟨hsaid, hend⟩ := repliesIn_kept hnew hother hrest
    refine ⟨?_, hallEnd.alike.symm.trans (hend.trans hsomeEnd.alike)⟩
    show InPlace.repliesIn d _ = (InPlace.repliesIn d _).map _
    rw [hsome, hsaid, hall]

/-- **Errors change nothing.**  Whatever happened before: a request that is refused leaves the
device as it was, and so does an operation that fails; and the operations of a list that fail may as
well be left out.  The same is true where changes are made in place, if a network instance without
tables of programmed entries counts like one with empty ones. -/
theorem errors_change_nothing (settings : Settings) (past : List Event) :
    Harmless conduct Eq ((start settings).after past) ∧
    Harmless conductInPlace Matches (InPlace.after (start settings) past) ∧
    InPlace.repliesIn (start settings) past = (start settings).repliesIn past ∧
    Matches ((start settings).after past) (InPlace.after (start settings) past) := by
  obtain ⟨hsaid, hsame⟩ := after_inPlace (.refl (start settings)) past
  exact ⟨harmless _, harmless_inPlace _, hsaid, hsame⟩

/-- A session that waits for forwarding, with nothing programmed. -/
def unprogrammed : List Event := [
  .serve 0 (.replaceInstance
    { name := defaultInstanceName, type := .default, description := none }),
  .serve 1 (.openSession
    { persistence := false, ackMode := .ribAndFib, electionId := { high := 1, low := 0 } })]

/-- A group with one member. -/
def groupOfOne (id : Nat) : Operation :=
  ⟨id, .add, .nextHopGroup ⟨1, .ofList [(1, 1)], defaultInstanceName⟩⟩

/-- Operations of which the first comes too early and the last one deletes what isn't there. -/
def hasty : List Operation := [
  groupOfOne 1,
  ⟨2, .add, .nextHop ⟨1, (Link.numbered 1).ate.ipv4, defaultInstanceName⟩⟩,
  groupOfOne 3,
  ⟨4, .delete, .ipv4 ⟨crossedDest, 1, defaultInstanceName, none, none⟩⟩]

/-- The group that comes too early leaves empty tables behind. -/
theorem errors_change_nothing_hasty : ∃ d, InPlace.after (start .standard) unprogrammed = d ∧
    (InPlace.perform true d (groupOfOne 1)).1 ≠ d ∧
    Matches d (InPlace.perform true d (groupOfOne 1)).1 ∧
    InPlace.repliesIn d [.serve 2 (.modify 1 hasty), .process] = [(2, .results (.ok [
      ⟨1, .failed .missingReference⟩, ⟨2, .fibProgrammed⟩, ⟨3, .fibProgrammed⟩,
      ⟨4, .failed .invalidEntry⟩]))] ∧
    InPlace.repliesIn d [.serve 2 (.modify 1 (hasty.tail.take 2)), .process] =
      [(2, .results (.ok [⟨2, .fibProgrammed⟩, ⟨3, .fibProgrammed⟩]))] := by
  obtain ⟨-, hinPlace, -⟩ := errors_change_nothing .standard unprogrammed
  generalize hd : InPlace.after (start .standard) unprogrammed = d at hinPlace
  have hsaid : InPlace.repliesIn d [.serve 2 (.modify 1 hasty), .process] =
      [(2, .results (.ok [⟨1, .failed .missingReference⟩, ⟨2, .fibProgrammed⟩,
        ⟨3, .fibProgrammed⟩, ⟨4, .failed .invalidEntry⟩]))] := by
    subst hd
    rfl
  have hkept : hasty.tail.take 2 =
      kept hasty (InPlace.performAll (d.isPrimary 1) d hasty).2 := by
    rw [← hd]
    decide +kernel
  have hfailed : (InPlace.perform true d (groupOfOne 1)).2.isFailed = true := by
    rw [← hd]
    decide +kernel
  have hdiffers : (InPlace.perform true d (groupOfOne 1)).1 ≠ d := by
    rw [← hd]
    decide +kernel
  have hnew : d.owedTo 2 = [] := by
    rw [← hd]
    decide +kernel
  obtain ⟨htold, -⟩ := hinPlace.told (l := [.process]) hnew (by simp [Event.IsFor]) hkept
  refine ⟨d, rfl, hdiffers, hinPlace.failed hfailed, hsaid, ?_⟩
  exact htold.trans (congrArg (List.map (trimReply 2)) hsaid)

end Device

end RoutePreference
