import DataPortal.Proofs.Client.Collecting
/-!
# The first records of a stream

A walk draws its records from a script, one request after the other. The answers that some records
are drawn with are the least ones on which the walk yields them, whatever the script goes on with
(`Draws`). A step with a record or without one keeps to this, so a whole run (`Runs`) draws any
number of its first records in this way, and every script is run to an end (`halts`). Collecting
therefore sends what the records need, and leaves the rest of the script.
-/
namespace DataPortal

namespace PageWalk

open Replay Service Walk

/-- The event is a request for data. -/
def isRequest : Event → Bool
  | .requested _ => true
  | _ => false

section Walks

variable {config : Config} {owns : Bool} {t : Tape} {token : Option AccessToken} {w : PageWalk}
  {place next : Place} {progress : Progress Place Value} {answers used short : List Reply}
  {events before : List Event} {items : List Value} {ending : Ending}

/-- One step leads on with some answers of a script, one request for each, and does so whatever the
script goes on with. With fewer answers it fails. -/
structure Advances (config : Config) (owns : Bool) (t : Tape) (token : Option AccessToken)
    (w : PageWalk) (place : Place) (answers : List Reply) (events : List Event)
    (progress : Progress Place Value) : Prop where
  step_eq : ∀ rest log, w.step (openClient config owns) place
      (scripted t token (answers ++ rest) log) =
    (.ok progress, scripted t token rest (events ++ log))
  requests : events.countP isRequest = answers.length
  least : ∀ {short}, short <+: answers → short ≠ answers → ∀ log, ∃ f s',
    w.step (openClient config owns) place (scripted t token short log) = (.error f, s')

/-- A walk yields some records with some answers of a script, one request for each, and pulling
them leaves whatever the script goes on with. With fewer answers it fails before the last of these
records. -/
structure Draws (config : Config) (owns : Bool) (t : Tape) (token : Option AccessToken)
    (w : PageWalk) (place : Place) (records : List Value) (used : List Reply)
    (events : List Event) : Prop where
  enough : ∀ rest log, ∃ last, Pulls (w.step (openClient config owns)) (some records.length) place
    (scripted t token (used ++ rest) log)
    (⟨records, .enough, some last⟩, scripted t token rest (events ++ log))
  requests : events.countP isRequest = used.length
  least : ∀ {short}, short <+: used → short ≠ used → ∀ log, ∃ few f s',
    Pulls (w.step (openClient config owns)) none place (scripted t token short log)
        (⟨few, .failed f, none⟩, s') ∧
      few.length < records.length

/-- A whole run of a walk on a script: the records, the ending, what is left of the script and what
was done, the newest first. -/
inductive Runs (config : Config) (owns : Bool) (t : Tape) (token : Option AccessToken)
    (w : PageWalk) : Place → List Reply → List Value → Ending → List Reply → List Event → Prop
  | ended {place : Place} {replies : List Reply} :
      (∀ s, w.step (openClient config owns) place s = (.ok .ended, s)) →
      Runs config owns t token w place replies [] .ended replies []
  | failed {place : Place} {replies left : List Reply} {events : List Event} {f : Failure} :
      (∀ log, w.step (openClient config owns) place (scripted t token replies log) =
        (.error f, scripted t token left (events ++ log))) →
      Runs config owns t token w place replies [] (.failed f) left events
  | moved {place next : Place} {answers replies left : List Reply} {before events : List Event}
      {records : List Value} {ending : Ending} :
      Advances config owns t token w place answers before (.moved next) →
      Runs config owns t token w next replies records ending left events →
      Runs config owns t token w place (answers ++ replies) records ending left (events ++ before)
  | item {place next : Place} {answers replies left : List Reply} {before events : List Event}
      {record : Value} {records : List Value} {ending : Ending} :
      Advances config owns t token w place answers before (.item record next) →
      Runs config owns t token w next replies records ending left events →
      Runs config owns t token w place (answers ++ replies) (record :: records) ending left
        (events ++ before)

/-! ## One step -/

/-- A step that needs nothing of the script. -/
theorem Advances.silent
    (h : ∀ s, w.step (openClient config owns) place s = (.ok progress, s)) :
    Advances config owns t token w place [] [] progress where
  step_eq _ _ := h _
  requests := rfl
  least hshort hne := absurd (List.prefix_nil.1 hshort) hne

/-- A script that is over answers no request. -/
theorem request_of_silence (base : List Char) (cursor : Option Value) (fetched sent : Nat)
    (log : List Event) :
    w.request (openClient config owns) base cursor fetched sent (scripted t token [] log) =
      (.error (.unreachable "no response left"),
        scripted t token [] (.requested (pageRequest config w.path base cursor) :: log)) :=
  request_answer rfl rfl

/-- A request takes one answer. -/
theorem Advances.request {base : List Char} {cursor : Option Value} {fetched sent : Nat}
    {reply : Reply} {pauses : List Event}
    (hstep : ∀ rest log, w.request (openClient config owns) base cursor fetched sent
        (scripted t token (reply :: rest) log) =
      (.ok progress, scripted t token rest
        (pauses ++ .requested (pageRequest config w.path base cursor) :: log)))
    (hpauses : pauses.countP isRequest = 0) :
    Advances config owns t token w (.request base cursor fetched sent) [reply]
      (pauses ++ [.requested (pageRequest config w.path base cursor)]) progress where
  step_eq rest log := by
    rw [List.append_assoc]
    exact hstep rest log
  requests := by
    rw [List.countP_append, hpauses]
    rfl
  least hshort hne log := by
    obtain rfl : _ = [] := by
      rcases List.prefix_cons_iff.1 hshort with h | ⟨rest, rfl, hrest⟩
      · exact h
      · exact absurd (by rw [List.prefix_nil.1 hrest]) hne
    exact ⟨_, _, request_of_silence ..⟩

/-- An answer ends the walk, keeps it at the page after a pause, or gives the records of the
page. -/
theorem request_cases {p : RetryPolicy} (hretry : w.retry = some p) (base : List Char)
    (cursor : Option Value) (fetched sent : Nat) (reply : Reply) :
    (∃ f, ∀ rest log, w.request (openClient config owns) base cursor fetched sent
          (scripted t token (reply :: rest) log) =
        (.error f,
          scripted t token rest (.requested (pageRequest config w.path base cursor) :: log))) ∨
      ∃ next pauses, (next = .request base cursor fetched (sent + 1) ∨
          ∃ records page, next = .deliver base records page fetched) ∧
        pauses.countP isRequest = 0 ∧
        ∀ rest log, w.request (openClient config owns) base cursor fetched sent
            (scripted t token (reply :: rest) log) =
          (.ok (.moved next), scripted t token rest
            (pauses ++ .requested (pageRequest config w.path base cursor) :: log)) := by
  cases hrefusal : isRefusal reply with
  | true =>
    obtain ⟨r, body, rfl, hrefuses⟩ := exists_of_isRefusal hrefusal
    cases hslow : slowDown p body fetched (sent + 1) with
    | error f =>
      refine .inl ⟨f, fun rest log => ?_⟩
      rw [request_of_refusal rfl (get_scripted _ (next_cons ..)) hretry hrefuses, hslow]
      rfl
    | ok seconds =>
      refine .inr ⟨_, [.slept seconds], .inl rfl, rfl, fun rest log => ?_⟩
      rw [request_of_refusal rfl (get_scripted _ (next_cons ..)) hretry hrefuses, hslow]
      rfl
  | false =>
    rcases landing_cases base fetched reply with ⟨f, hlanding⟩ | ⟨records, page, hlanding⟩
    · refine .inl ⟨f, fun rest log => ?_⟩
      rw [request_answer (next_cons ..) hrefusal, hlanding]
    · refine .inr ⟨_, [], .inr ⟨records, page, rfl⟩, rfl, fun rest log => ?_⟩
      rw [request_answer (next_cons ..) hrefusal, hlanding]
      rfl

/-! ## Drawing records -/

theorem Draws.nil (place : Place) : Draws config owns t token w place [] [] [] where
  enough _ _ := ⟨place, Pulls.enough⟩
  requests := rfl
  least hshort hne := absurd (List.prefix_nil.1 hshort) hne

/-- Fewer of the answers of a step and of what follows it are fewer answers of the step, or all of
them and fewer of what follows. -/
theorem short_cases (hshort : short <+: answers ++ used) (hne : short ≠ answers ++ used) :
    (short <+: answers ∧ short ≠ answers) ∨
      ∃ rest, short = answers ++ rest ∧ rest <+: used ∧ rest ≠ used := by
  by_cases hall : answers <+: short
  · obtain ⟨rest, rfl⟩ := hall
    exact .inr ⟨rest, rfl, (List.prefix_append_right_inj answers).1 hshort,
      fun h => hne (by rw [h])⟩
  · refine .inl ⟨?_, fun h => hall (h ▸ List.prefix_rfl)⟩
    exact (List.prefix_or_prefix_of_prefix hshort (List.prefix_append ..)).resolve_right hall

/-- A step without a record in front: some records are still to be drawn. -/
theorem Draws.moved (ha : Advances config owns t token w place answers before (.moved next))
    (h : Draws config owns t token w next items used events) (hitems : items ≠ []) :
    Draws config owns t token w place items (answers ++ used) (events ++ before) where
  enough rest log := by
    obtain ⟨last, hpulls⟩ := h.enough rest (before ++ log)
    have hwanted : some items.length ≠ some 0 := by simpa using hitems
    refine ⟨last, ?_⟩
    rw [List.append_assoc, List.append_assoc]
    exact Pulls.of_step hwanted (ha.step_eq _ log) hpulls
  requests := by
    rw [List.countP_append, List.length_append, h.requests, ha.requests, Nat.add_comm]
  least hshort hne log := by
    rcases short_cases hshort hne with ⟨hshort, hne⟩ | ⟨rest, rfl, hshort, hne⟩
    · obtain ⟨f, s', hstep⟩ := ha.least hshort hne log
      exact ⟨[], f, s', Pulls.of_step (by simp) hstep rfl, List.length_pos_iff.2 hitems⟩
    · obtain ⟨few, f, s', hpulls, hfew⟩ := h.least hshort hne (before ++ log)
      exact ⟨few, f, s', Pulls.of_step (by simp) (ha.step_eq rest log) hpulls, hfew⟩

/-- A step with a record in front. -/
theorem Draws.item {record : Value}
    (ha : Advances config owns t token w place answers before (.item record next))
    (h : Draws config owns t token w next items used events) :
    Draws config owns t token w place (record :: items) (answers ++ used)
      (events ++ before) where
  enough rest log := by
    obtain ⟨last, hpulls⟩ := h.enough rest (before ++ log)
    refine ⟨last, ?_⟩
    rw [List.append_assoc, List.append_assoc]
    exact Pulls.of_step (by simp) (ha.step_eq _ log) ⟨_, hpulls, rfl⟩
  requests := by
    rw [List.countP_append, List.length_append, h.requests, ha.requests, Nat.add_comm]
  least hshort hne log := by
    rcases short_cases hshort hne with ⟨hshort, hne⟩ | ⟨rest, rfl, hshort, hne⟩
    · obtain ⟨f, s', hstep⟩ := ha.least hshort hne log
      exact ⟨[], f, s', Pulls.of_step (by simp) hstep rfl, Nat.succ_pos _⟩
    · obtain ⟨few, f, s', hpulls, hfew⟩ := h.least hshort hne (before ++ log)
      exact ⟨record :: few, f, s',
        Pulls.of_step (by simp) (ha.step_eq rest log) ⟨_, hpulls, rfl⟩, Nat.succ_lt_succ hfew⟩

/-! ## Whole runs -/

variable {replies left : List Reply} {base : List Char} {page : Value}

theorem Runs.pulls (h : Runs config owns t token w place replies items ending left events)
    (log : List Event) :
    Pulls (w.step (openClient config owns)) none place (scripted t token replies log)
      (⟨items, ending, none⟩, scripted t token left (events ++ log)) := by
  induction h generalizing log with
  | ended hstep => exact Pulls.of_step (by simp) (hstep _) rfl
  | failed hstep => exact Pulls.of_step (by simp) (hstep log) rfl
  | moved ha _ ih =>
    rw [List.append_assoc]
    exact Pulls.of_step (by simp) (ha.step_eq _ log) (ih _)
  | item ha _ ih =>
    rw [List.append_assoc]
    exact Pulls.of_step (by simp) (ha.step_eq _ log) ⟨_, ih _, rfl⟩

/-- The first records of a run are drawn with the first answers of the script, and with what was
done first. -/
def DrawsFirst (config : Config) (owns : Bool) (t : Tape) (token : Option AccessToken)
    (w : PageWalk) (place : Place) (replies : List Reply) (events : List Event)
    (records : List Value) : Prop :=
  ∃ used rest first later, replies = used ++ rest ∧ events = later ++ first ∧
    Draws config owns t token w place records used first

theorem DrawsFirst.nil (place : Place) (replies : List Reply) (events : List Event) :
    DrawsFirst config owns t token w place replies events [] :=
  ⟨[], replies, [], events, rfl, (List.append_nil _).symm, .nil place⟩

/-- A run draws as many of its records as one likes. -/
theorem Runs.drawsFirst (h : Runs config owns t token w place replies items ending left events)
    {n : Nat} (hn : n ≤ items.length) :
    DrawsFirst config owns t token w place replies events (items.take n) := by
  -- on the run: a step is in front of what draws the records that are still missing
  induction h generalizing n with
  | ended _ | failed _ =>
    rw [List.take_nil]
    exact .nil ..
  | @moved place next answers replies left before events items ending ha _ ih =>
    by_cases hnone : items.take n = []
    · rw [hnone]
      exact .nil ..
    · obtain ⟨used, rest, first, later, rfl, rfl, hdraws⟩ := ih hn
      exact ⟨answers ++ used, rest, first ++ before, later, (List.append_assoc ..).symm,
        List.append_assoc .., hdraws.moved ha hnone⟩
  | @item place next answers replies left before events record items ending ha _ ih =>
    cases n with
    | zero => exact .nil ..
    | succ n =>
      obtain ⟨used, rest, first, later, rfl, rfl, hdraws⟩ := ih (Nat.le_of_succ_le_succ hn)
      exact ⟨answers ++ used, rest, first ++ before, later, (List.append_assoc ..).symm,
        List.append_assoc .., hdraws.item ha⟩

/-! ## Every script is run -/

/-- The walk comes to an end from this place. -/
def Halts (config : Config) (owns : Bool) (t : Tape) (token : Option AccessToken) (w : PageWalk)
    (place : Place) (replies : List Reply) : Prop :=
  ∃ records ending left events, Runs config owns t token w place replies records ending left events

theorem Halts.of_advance (ha : Advances config owns t token w place answers before progress)
    {next : Place} (hnext : progress = .moved next ∨ ∃ record, progress = .item record next)
    (h : Halts config owns t token w next replies) :
    Halts config owns t token w place (answers ++ replies) := by
  obtain ⟨records, ending, left, events, hruns⟩ := h
  rcases hnext with rfl | ⟨record, rfl⟩
  · exact ⟨_, _, _, _, .moved ha hruns⟩
  · exact ⟨_, _, _, _, .item ha hruns⟩

theorem Halts.of_failure {left : List Reply} {r : Request} {f : Failure}
    (h : ∀ log, w.step (openClient config owns) place (scripted t token replies log) =
      (.error f, scripted t token left (.requested r :: log))) :
    Halts config owns t token w place replies :=
  ⟨[], .failed f, left, [.requested r], .failed h⟩

theorem Halts.of_silent_failure {f : Failure}
    (h : ∀ s, w.step (openClient config owns) place s = (.error f, s)) :
    Halts config owns t token w place replies :=
  ⟨[], .failed f, replies, [], .failed fun _ => h _⟩

/-- A page has its records, and after them it ends the walk or names another page. -/
theorem halts_deliver
    (h : ∀ cursor fetched, Halts config owns t token w (.request base cursor fetched 0) replies)
    (records : List Value) (page : Value) (fetched : Nat) :
    Halts config owns t token w (.deliver base records page fetched) replies := by
  induction records generalizing fetched with
  | nil =>
    have hstep := fun s => @step_delivered Tape (openClient config owns) w base fetched page s
    cases hnext : nextCursor page with
    | error f =>
      rw [hnext] at hstep
      exact .of_silent_failure hstep
    | ok cursor =>
      rw [hnext] at hstep
      cases cursor with
      | none => exact ⟨_, _, _, _, .ended hstep⟩
      | some cursor => exact .of_advance (.silent hstep) (.inl rfl) (h (some cursor) fetched)
  | cons record records ih =>
    exact .of_advance (.silent fun _ => rfl) (.inr ⟨record, rfl⟩) (ih (fetched + 1))

/-- Each request takes an answer, until there is none. -/
theorem halts_request {p : RetryPolicy} (hretry : w.retry = some p) (base : List Char)
    (replies : List Reply) (cursor : Option Value) (fetched sent : Nat) :
    Halts config owns t token w (.request base cursor fetched sent) replies := by
  induction replies generalizing cursor fetched sent with
  | nil => exact .of_failure fun log => request_of_silence base cursor fetched sent log
  | cons reply rest ih =>
    rcases @request_cases config owns t token w p hretry base cursor fetched sent reply with
      ⟨f, hfailed⟩ | ⟨next, pauses, hnext, hpauses, hstep⟩
    · exact .of_failure (hfailed rest)
    · refine .of_advance (.request hstep hpauses) (.inl rfl) ?_
      rcases hnext with rfl | ⟨records, page, rfl⟩
      · exact ih cursor fetched (sent + 1)
      · exact halts_deliver (fun cursor fetched => ih cursor fetched 0) records page fetched

theorem halts {p : RetryPolicy} (hretry : w.retry = some p) (replies : List Reply) :
    Halts config owns t token w .unstarted replies := by
  have hstep := fun s => @step_unstarted Tape (openClient config owns) w s
  cases hbase : w.baseQuery with
  | error f =>
    rw [hbase] at hstep
    exact .of_silent_failure hstep
  | ok base =>
    rw [hbase] at hstep
    exact .of_advance (.silent hstep) (.inl rfl) (halts_request hretry base replies none 0 0)

end Walks

end PageWalk

namespace Client

open PageWalk Replay Service Walk

/-- **Collecting takes the first records and asks for nothing after the last of them.** On any
script a stream with retries yields some records and comes to an ending. Under a bound that is not
positive nothing is collected and nothing is sent. Under a bound that the stream reaches its first
records are collected, with one request for each answer that is used: these are the first requests
of the stream, fewer answers would not do, and whatever the script goes on with is left as it is.
Under a bound that is not reached, or under none, all records are collected of a stream that ends
without a failure. -/
theorem collects_first_records (config : Config) (owns : Bool) (model : String)
    (q : Option Query) (options : Option RetryPolicy) (t : Tape) (token : Option AccessToken)
    (replies : List Reply) (log : List Event) :
    let c := openClient config owns
    let w := c.streamWithRetry model q options
    ∃ records ending left events,
      Pulls (w.step c) none .unstarted (scripted t token replies log)
          (⟨records, ending, none⟩, scripted t token left (events ++ log)) ∧
        (∀ n : Int, n ≤ 0 → c.Collects model q (.int n) options (scripted t token replies log)
          (.ok [], scripted t token replies log)) ∧
        (∀ n : Nat, 1 ≤ n → n ≤ records.length →
          ∃ used rest first later, replies = used ++ rest ∧ events = later ++ first ∧
            first.countP isRequest = used.length ∧
            (∀ rest' log', c.Collects model q (.int n) options
              (scripted t token (used ++ rest') log')
              (.ok (records.take n), scripted t token rest' (first ++ log'))) ∧
            ∀ short, short <+: used → short ≠ used → ∀ log', ∃ few f s',
              Pulls (w.step c) none .unstarted (scripted t token short log')
                  (⟨few, .failed f, none⟩, s') ∧
                few.length < n) ∧
        (∀ most : Option Int, (∀ m ∈ most, (records.length : Int) < m) → ending = .ended →
          c.Collects model q (most.elim .null .int) options (scripted t token replies log)
            (.ok records, scripted t token left (events ++ log))) := by
  intro c w
  obtain ⟨records, ending, left, events, hruns⟩ := @halts config owns t token w _ rfl replies
  have hpulls := hruns.pulls log
  refine ⟨records, ending, left, events, hpulls, ?_, ?_, ?_⟩
  · intro n hn
    have hwanted : mostRecords (.int n) = .ok (some 0) := by
      rw [mostRecords, Int.toNat_of_nonpos hn]
    exact collects_of_wanted hwanted Pulls.enough
  · intro n hone hn
    obtain ⟨used, rest, first, later, hreplies, hevents, hdraws⟩ := hruns.drawsFirst hn
    have hlength : (records.take n).length = n := List.length_take_of_le hn
    refine ⟨used, rest, first, later, hreplies, hevents, hdraws.requests, ?_, ?_⟩
    · intro rest' log'
      obtain ⟨last, henough⟩ := hdraws.enough rest' log'
      rw [hlength] at henough
      exact collects_of_wanted rfl henough
    · intro short hshort hne log'
      have hleast := hdraws.least hshort hne log'
      rwa [hlength] at hleast
  · rintro most hmost rfl
    exact collects_of_pulls hmost hpulls

/-- A record is collected from a stream that fails after it, and the failure is not seen. -/
theorem collects_one_before_failure :
    (∃ s', Pulls ((portal.streamWithRetry "m" none none).step portal) none .unstarted
      (scripted blank none [firstOfTwo, .answered ⟨500, [], 900⟩] [])
      (⟨[onlyRecord], .failed (.reported
        (.service .other "Internal Server Error" 500 .null none)), none⟩, s')) ∧
      ∃ used rest events, [firstOfTwo, .answered ⟨500, [], 900⟩] = used ++ rest ∧
        events.countP isRequest = used.length ∧
        portal.Collects "m" none (.int 1) none
          (scripted blank none [firstOfTwo, .answered ⟨500, [], 900⟩] [])
          (.ok [onlyRecord], scripted blank none rest events) := by
  have hrefusal : isRefusal (.answered ⟨500, [], 900⟩) = false := rfl
  obtain ⟨s', hbreak⟩ := pulls_broken hrefusal rfl
  refine ⟨⟨s', hbreak⟩, ?_⟩
  obtain ⟨records, ending, left, events, hpulls, -, hfirst, -⟩ := collects_first_records
    portal.config false "m" none none blank none [firstOfTwo, .answered ⟨500, [], 900⟩] []
  have hrecords : [onlyRecord] = records :=
    congrArg (fun r => r.1.items) (hpulls.unique hbreak)
  subst hrecords
  obtain ⟨used, rest, first, -, hreplies, -, hrequests, hcollects, -⟩ :=
    hfirst 1 (Nat.le_refl 1) (Nat.le_refl 1)
  have hone := hcollects rest []
  rw [← hreplies, List.append_nil] at hone
  exact ⟨used, rest, first, hreplies, hrequests, hone⟩

end Client

end DataPortal
