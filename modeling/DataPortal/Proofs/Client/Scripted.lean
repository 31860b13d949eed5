import DataPortal.Client.Paging
import DataPortal.Proofs.Client.Action
import DataPortal.Proofs.Client.Backoff
import DataPortal.Proofs.Client.Requests
import DataPortal.Proofs.Outcome
import DataPortal.Proofs.Service.ErrorAnswer
import DataPortal.Replay
/-!
# Walking the pages of a script

What one step of a walk over pages does where the client has no credentials, in any world and
where a script answers it. An answer leads a walk with retries where it leads one without, unless
it asks for slowing down.
-/
namespace DataPortal.PageWalk

open Outcome Replay Service

/-- An answer that asks for slowing down. One whose body is too deep to be read asks for nothing. -/
def isRefusal : Reply → Bool
  | .answered r => r.status == 429 && r.errorEntries.isOk
  | .unreachable _ => false

/-- An answer asks for slowing down, and this is its object, or null. -/
def Refuses (r : Response) (body : Value) : Prop :=
  r.status = 429 ∧ ∃ held, r.errorEntries = .ok held ∧ Response.errorBody held = body

/-! ## Reading answers -/

/-- A refusal, as an answer. -/
theorem exists_of_isRefusal {reply : Reply} (h : isRefusal reply = true) :
    ∃ r body, reply = .answered r ∧ Refuses r body := by
  cases reply with
  | unreachable m => cases h
  | answered r =>
    rw [isRefusal, Bool.and_eq_true] at h
    obtain ⟨hstatus, hheld⟩ := h
    cases hentries : r.errorEntries with
    | error f =>
      rw [hentries] at hheld
      cases hheld
    | ok held => exact ⟨r, _, rfl, by simpa using hstatus, held, hentries, rfl⟩

theorem Refuses.failed {r : Response} {body : Value} (h : Refuses r body) :
    ¬(200 ≤ r.status ∧ r.status ≤ 299) := by
  have hstatus := h.1
  omega

theorem readReply_refusal {r : Response} {body : Value} (h : Refuses r body) :
    ∃ message, Client.readReply (.answered r) =
      .error (.reported (.rateLimit message body 0 1)) := by
  obtain ⟨hstatus, held, hheld, rfl⟩ := id h
  refine ⟨Response.messageOf 429 held, Response.readReply_of_check ?_⟩
  rw [Response.check_of_failed h.failed, hheld, hstatus]
  rfl

/-- Only a refusal is a rate limit. -/
theorem readReply_answer {reply : Reply} (h : isRefusal reply = false) (message : LooseText)
    (body : Value) (fetched attempts : Int) :
    Client.readReply reply ≠ .error (.reported (.rateLimit message body fetched attempts)) := by
  cases reply with
  | unreachable m => simp [Client.readReply]
  | answered r =>
    intro hread
    rw [Client.readReply] at hread
    by_cases hsuccess : 200 ≤ r.status ∧ r.status ≤ 299
    · rw [Response.read_of_success hsuccess] at hread
      exact Response.json_ne_reported r _ hread
    · rw [Response.read, Response.check_of_failed hsuccess] at hread
      cases hentries : r.errorEntries with
      | error f =>
        have hdeep : f = .tooDeep := Response.failure_of_errorEntries hentries
        rw [hentries, hdeep] at hread
        cases hread
      | ok held =>
        have hstatus : r.status ≠ 429 := by
          intro hstatus
          have hrefusal : isRefusal (.answered r) = true := by
            rw [isRefusal, hstatus, hentries]
            rfl
          rw [hrefusal] at h
          cases h
        rw [hentries] at hread
        have hkind : Response.errorOf r.status held = .rateLimit message body fetched attempts :=
          Failure.reported.inj (Except.error.inj hread)
        rw [Response.errorOf] at hkind
        simp only [hstatus, if_false] at hkind
        grind

/-- A page is no refusal. -/
theorem isRefusal_of_readReply {reply : Reply} {page : Value}
    (hread : Client.readReply reply = .ok page) : isRefusal reply = false := by
  rw [← Bool.not_eq_true]
  intro hrefusal
  obtain ⟨r, body, rfl, hrefuses⟩ := exists_of_isRefusal hrefusal
  obtain ⟨message, hreport⟩ := readReply_refusal hrefuses
  rw [hreport] at hread
  cases hread

/-! ## One request -/

/-- The request for a page. -/
def pageRequest (config : Config) (path : String) (base : List Char) (cursor : Option Value) :
    Request :=
  ⟨config.baseUrl ++ path ++ String.ofList (pageQuery base cursor),
    [("Accept", "application/json")]⟩

/-- Where an answer leads that is no refusal. -/
def landing (base : List Char) (fetched : Nat) (reply : Reply) :
    Except Failure (Progress Place Value) := do
  let page ← Client.readReply reply
  let records ← Client.pageRecords page
  return .moved (.deliver base records page fetched)

/-- An answer that is no refusal ends the walk or gives the records of a page. -/
theorem landing_cases (base : List Char) (fetched : Nat) (reply : Reply) :
    (∃ f, landing base fetched reply = .error f) ∨
      ∃ records page,
        landing base fetched reply = .ok (.moved (.deliver base records page fetched)) := by
  cases h : landing base fetched reply with
  | error f => exact .inl ⟨f, rfl⟩
  | ok progress =>
    obtain ⟨page, -, h⟩ := bind_eq_ok.1 h
    obtain ⟨records, -, h⟩ := bind_eq_ok.1 h
    exact .inr ⟨records, page, by rw [← pure_eq_ok.1 h]⟩

section AnyWorld

variable {σ : Type} {c : Client σ} {w : PageWalk} {base : List Char} {cursor : Option Value}
  {fetched sent : Nat} {reply : Reply} {s : Session σ} {world : σ}

/-- A client without credentials sends a request as it is. -/
theorem outcome_fetch (hopen : c.credentials = none)
    (hget : c.host.get (pageRequest c.config w.path base cursor) s.outside = (reply, world)) :
    (c.fetch w.path (pageQuery base cursor)).outcome s =
      (.ok (Client.readReply reply), ⟨world, s.token⟩) := by
  have hfetch := Client.fetch_of_headers (Client.headers_of_open hopen s) hget
  rw [Action.outcome, hfetch]

/-- An answer that is no refusal leads any walk to the same place, and a walk without retries
makes no difference between answers. -/
theorem request_of_answer (hopen : c.credentials = none)
    (hget : c.host.get (pageRequest c.config w.path base cursor) s.outside = (reply, world))
    (hanswered : w.retry = none ∨ isRefusal reply = false) :
    w.request c base cursor fetched sent s =
      (landing base fetched reply, ⟨world, s.token⟩) := by
  rw [request, Action.bind_of_ok (outcome_fetch hopen hget)]
  cases hread : Client.readReply reply with
  | ok page =>
    rw [landing, hread]
    cases hrecords : Client.pageRecords page with
    | error f =>
      simp only [hrecords, bind, Except.bind]
      rfl
    | ok records =>
      simp only [hrecords, bind, Except.bind]
      rfl
  | error f =>
    -- no policy has anything to say to a failure that is no refusal
    rw [landing, hread]
    cases hretry : w.retry with
    | none => rfl
    | some p =>
      have hanswered : isRefusal reply = false := hanswered.resolve_left (by simp [hretry])
      cases f with
      | reported e =>
        cases e with
        | rateLimit message body fetched' attempts =>
          exact absurd hread (readReply_answer hanswered message body fetched' attempts)
        | _ => rfl
      | _ => rfl

/-- After a refusal a walk with retries does what its policy says. -/
theorem request_of_refusal {p : RetryPolicy} (hopen : c.credentials = none) {r : Response}
    {body : Value} (hget : c.host.get (pageRequest c.config w.path base cursor) s.outside =
      (.answered r, world))
    (hretry : w.retry = some p) (hrefuses : Refuses r body) :
    w.request c base cursor fetched sent s =
      match slowDown p body fetched (sent + 1) with
      | .error f => (.error f, ⟨world, s.token⟩)
      | .ok seconds =>
        (.ok (.moved (.request base cursor fetched (sent + 1))),
          ⟨c.host.sleep seconds world, s.token⟩) := by
  obtain ⟨message, hreport⟩ := readReply_refusal hrefuses
  rw [request, Action.bind_of_ok (outcome_fetch hopen hget), hreport, hretry]
  dsimp only
  cases slowDown p body fetched (sent + 1) with
  | error f => rfl
  | ok seconds => rfl

/-! ## Before the first page and after each -/

theorem step_unstarted (s : Session σ) :
    w.step c .unstarted s =
      (match w.baseQuery with
        | .error f => .error f
        | .ok base => .ok (.moved (.request base none 0 0)), s) := by
  cases hbase : w.baseQuery with
  | error f =>
    rw [step, Action.bind_of_error (e := f)]
    rw [hbase]
    rfl
  | ok base =>
    rw [step, Action.bind_of_ok (x := base) (s := s)]
    · rfl
    · rw [hbase]
      rfl

/-- The end of a page: the walk goes to the next one, ends or fails. -/
theorem step_delivered (page : Value) (s : Session σ) :
    w.step c (.deliver base [] page fetched) s =
      (match nextCursor page with
        | .error f => .error f
        | .ok none => .ok .ended
        | .ok (some cursor) => .ok (.moved (.request base (some cursor) fetched 0)), s) := by
  cases hnext : nextCursor page with
  | error f =>
    rw [step, Action.bind_of_error (e := f)]
    rw [hnext]
    rfl
  | ok cursor =>
    rw [step, Action.bind_of_ok (x := cursor) (f := _) (s := s)]
    · cases cursor <;> rfl
    · rw [hnext]
      rfl

end AnyWorld

/-! ## Requests to a script -/

/-- A client without credentials. -/
def openClient (config : Config) (owns : Bool) : Client Tape :=
  ⟨config, Replay.host, none, owns⟩

/-- A session with a script without routes, and a log. -/
def scripted (t : Tape) (token : Option AccessToken) (replies : List Reply) (log : List Event) :
    Session Tape :=
  ⟨{ t with routes := [], replies, log }, token⟩

variable {config : Config} {owns : Bool} {t : Tape} {token : Option AccessToken} {w : PageWalk}
  {reply : Reply} {replies rest : List Reply} {log : List Event} {base : List Char}
  {cursor : Option Value} {fetched sent : Nat}

theorem next_cons (reply : Reply) (rest : List Reply) :
    Tape.next (reply :: rest) = (reply, rest) := rfl

theorem get_scripted (r : Request) (hnext : Tape.next replies = (reply, rest)) :
    (openClient config owns).host.get r (scripted t token replies log).outside =
      (reply, (scripted t token rest (.requested r :: log)).outside) := by
  have htape : (openClient config owns).host.get r (scripted t token replies log).outside =
      ((Tape.next replies).1,
        (scripted t token (Tape.next replies).2 (.requested r :: log)).outside) := rfl
  rw [htape, hnext]

/-- An answer that is no refusal leads any walk to the same place. -/
theorem request_answer (hnext : Tape.next replies = (reply, rest))
    (hanswered : isRefusal reply = false) :
    w.request (openClient config owns) base cursor fetched sent (scripted t token replies log) =
      (landing base fetched reply,
        scripted t token rest (.requested (pageRequest config w.path base cursor) :: log)) :=
  request_of_answer rfl (get_scripted _ hnext) (.inr hanswered)

/-- A refusal makes a walk with attempts left wait and stay where it is. -/
theorem request_refusal {p : Schedule} (hretry : w.retry = some p.policy)
    (h : isRefusal reply = true) (hleft : (sent + 1 : Nat) < p.attempts)
    (hrange : p.InRange (sent + 1)) :
    w.request (openClient config owns) base cursor fetched sent
        (scripted t token (reply :: replies) log) =
      (.ok (.moved (.request base cursor fetched (sent + 1))),
        scripted t token replies
          (.slept (p.waitSeconds (sent + 1)) ::
            .requested (pageRequest config w.path base cursor) :: log)) := by
  obtain ⟨r, body, rfl, hrefuses⟩ := exists_of_isRefusal h
  rw [request_of_refusal rfl (get_scripted _ (next_cons ..)) hretry hrefuses,
    p.slowDown_of_inRange hleft hrange]
  rfl

/-- A wait that the host cannot be told ends the walk. -/
theorem request_overflow {p : Schedule} (hretry : w.retry = some p.policy)
    (h : isRefusal reply = true) (hleft : (sent + 1 : Nat) < p.attempts) {negative : Bool}
    (hwait : p.waitSeconds (sent + 1) = .infinite negative) :
    w.request (openClient config owns) base cursor fetched sent
        (scripted t token (reply :: replies) log) =
      (.error .overflow,
        scripted t token replies (.requested (pageRequest config w.path base cursor) :: log)) := by
  obtain ⟨r, body, rfl, hrefuses⟩ := exists_of_isRefusal h
  rw [request_of_refusal rfl (get_scripted _ (next_cons ..)) hretry hrefuses, p.slowDown_eq hleft,
    hwait]
  rfl

end DataPortal.PageWalk
