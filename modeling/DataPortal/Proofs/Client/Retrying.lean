import DataPortal.Proofs.Client.Pulls
import DataPortal.Proofs.Client.Scripted
/-!
# Retries do not show

A walk that retries gives what a walk without retries gives on the script without the answers
that ask for slowing down, unless one of these exhausts the attempts. Both walks are at the
same place whenever neither of them is amid the attempts for one page (`Agree`), and one turn
of the script leads both from one such place to the next.
-/
namespace DataPortal.PageWalk

open Replay Service Walk

/-- The answers to the attempts for one page: refusals, and one answer that is none. -/
structure Turn where
  refusals : List Reply
  answer : Reply
  refused : ∀ reply ∈ refusals, isRefusal reply = true
  answered : isRefusal answer = false

def Turn.replies (t : Turn) : List Reply :=
  t.refusals ++ [t.answer]

/-- A turn that a policy gets through: its refusals leave an attempt, and each of its waits is
in range. -/
structure Turn.Fits (p : Schedule) (turn : Turn) : Prop where
  attempts_left : turn.refusals ≠ [] → turn.refusals.length < p.attempts
  in_range : ∀ retry, 1 ≤ retry → retry ≤ turn.refusals.length → p.InRange retry

/-- The answers of several turns. -/
def script (turns : List Turn) : List Reply :=
  turns.flatMap Turn.replies

/-- The same without the refusals. -/
def answers (turns : List Turn) : List Reply :=
  (script turns).filter fun reply => !isRefusal reply

/-- One page is sent, refused some times, with a wait after each, and sent once more. The
retries are counted from the given one on. -/
def attempts (p : Schedule) (r : Request) : Nat → Nat → List Event
  | _, 0 => [.requested r]
  | retry, refusals + 1 =>
    .requested r :: .slept (p.waitSeconds retry) :: attempts p r (retry + 1) refusals

/-- What some requests come to where each is answered by one turn. -/
def transcript (p : Schedule) : List Turn → List Request → List Event
  | _, [] => []
  | [], rs => rs.map .requested
  | t :: turns, r :: rs => attempts p r 1 t.refusals.length ++ transcript p turns rs

theorem script_cons (turn : Turn) (turns : List Turn) :
    script (turn :: turns) = turn.refusals ++ turn.answer :: script turns := by
  simp [script, Turn.replies]

/-- Every script that does not end with a refusal comes in turns. -/
theorem exists_turns {replies : List Reply}
    (h : ∀ reply ∈ replies.getLast?, isRefusal reply = false) :
    ∃ turns, script turns = replies := by
  induction replies with
  | nil => exact ⟨[], rfl⟩
  | cons reply rest ih =>
    by_cases hrest : rest = []
    · subst hrest
      exact ⟨[⟨[], reply, by simp, h reply rfl⟩], rfl⟩
    · obtain ⟨turns, hturns⟩ := ih (by rwa [List.getLast?_cons_of_ne_nil hrest] at h)
      by_cases hreply : isRefusal reply = true
      · -- a refusal belongs to the turn after it
        cases turns with
        | nil => exact absurd hturns.symm hrest
        | cons turn turns =>
          refine ⟨⟨reply :: turn.refusals, turn.answer, ?_, turn.answered⟩ :: turns, ?_⟩
          · intro r hr
            rcases List.mem_cons.1 hr with rfl | hr
            · exact hreply
            · exact turn.refused r hr
          · exact congrArg (reply :: ·) hturns
      · exact ⟨⟨[], reply, by simp, by simpa using hreply⟩ :: turns,
          congrArg (reply :: ·) hturns⟩

variable {config : Config} {owns : Bool} {t : Tape} {token : Option AccessToken} {w : PageWalk}
  {reply : Reply} {replies rest : List Reply} {log : List Event} {base : List Char}
  {cursor : Option Value} {fetched sent : Nat} {path : String} {p : Schedule}
  {turns : List Turn} {wanted : Option Nat}

/-! ## One turn -/

/-- Any walk goes on from an answer that is no refusal. -/
theorem pulls_answered {wanted : Option Nat} (hwanted : wanted ≠ some 0)
    (hnext : Tape.next replies = (reply, rest)) (hanswered : isRefusal reply = false)
    {r : Pulled Place Value × Session Tape}
    (h : Resumes (w.step (openClient config owns)) wanted (landing base fetched reply)
      (scripted t token rest (.requested (pageRequest config w.path base cursor) :: log)) r) :
    Pulls (w.step (openClient config owns)) wanted (.request base cursor fetched sent)
      (scripted t token replies log) r :=
  Pulls.of_step hwanted (request_answer hnext hanswered) h

/-- A walk that retries waits through the refusals of a turn and goes on from its answer. -/
theorem pulls_turn {p : Schedule} (hretry : w.retry = some p.policy) {wanted : Option Nat}
    (hwanted : wanted ≠ some 0) {refusals : List Reply}
    (hrefused : ∀ reply ∈ refusals, isRefusal reply = true)
    (hanswered : isRefusal reply = false)
    (hleft : ∀ i < refusals.length, (sent + i + 1 : Nat) < p.attempts)
    (hrange : ∀ i < refusals.length, p.InRange (sent + i + 1))
    {r : Pulled Place Value × Session Tape}
    (h : Resumes (w.step (openClient config owns)) wanted (landing base fetched reply)
      (scripted t token rest
        ((attempts p (pageRequest config w.path base cursor) (sent + 1)
          refusals.length).reverse ++ log)) r) :
    Pulls (w.step (openClient config owns)) wanted (.request base cursor fetched sent)
      (scripted t token (refusals ++ reply :: rest) log) r := by
  -- on the refusals, with as many of the attempts used up before them
  induction refusals generalizing sent log with
  | nil => exact pulls_answered hwanted (next_cons reply rest) hanswered h
  | cons refusal refusals ih =>
    refine Pulls.of_step hwanted (request_refusal hretry (hrefused refusal (by simp))
      (hleft 0 (by simp)) (hrange 0 (by simp))) ?_
    apply ih
    · intro reply hreply
      exact hrefused reply (by simp [hreply])
    · intro i hi
      have := hleft (i + 1) (by simpa using hi)
      rwa [← Nat.add_assoc, Nat.add_right_comm sent i 1] at this
    · intro i hi
      have := hrange (i + 1) (by simpa using hi)
      rwa [← Nat.add_assoc, Nat.add_right_comm sent i 1] at this
    · simpa [attempts] using h

/-! ## Whole walks -/

/-- From a place on, a walk with retries gives on some turns what one without retries gives on
their answers, by the same requests, each sent as often as its turn has it. -/
def Agree (config : Config) (owns : Bool) (t : Tape) (token : Option AccessToken) (path : String)
    (p : Schedule) (turns : List Turn) (wanted : Option Nat) (place : Place) : Prop :=
  ∃ pulled requests left, ∀ q q' log log',
    Pulls (step (openClient config owns) ⟨path, q, none⟩) wanted place
      (scripted t token (turns.map Turn.answer) log)
      (pulled, scripted t token (left.map Turn.answer)
        ((requests.map Event.requested).reverse ++ log)) ∧
    Pulls (step (openClient config owns) ⟨path, q', some p.policy⟩) wanted place
      (scripted t token (script turns) log')
      (pulled, scripted t token (script left) ((transcript p turns requests).reverse ++ log'))

theorem transcript_nil (p : Schedule) (turns : List Turn) : transcript p turns [] = [] := by
  cases turns <;> rfl

/-- Walks agree where any walk comes to the same result without a request. -/
theorem Agree.of_silent {place : Place} {pulled : Pulled Place Value}
    (h : ∀ (w : PageWalk) (s : Session Tape),
      Pulls (w.step (openClient config owns)) wanted place s (pulled, s)) :
    Agree config owns t token path p turns wanted place := by
  refine ⟨pulled, [], turns, ?_⟩
  intro q q' log log'
  rw [transcript_nil]
  exact ⟨h _ _, h _ _⟩

/-- Both walks deliver the records of a page alike. -/
theorem Agree.deliver (page : Value)
    (h : ∀ wanted cursor fetched, wanted ≠ some 0 →
      Agree config owns t token path p turns wanted (.request base (some cursor) fetched 0))
    (records : List Value) (wanted : Option Nat) (fetched : Nat) :
    Agree config owns t token path p turns wanted (.deliver base records page fetched) := by
  induction records generalizing wanted fetched with
  | nil =>
    by_cases hwanted : wanted = some 0
    · subst hwanted
      exact .of_silent fun _ _ => .enough
    · cases hnext : nextCursor page with
      | error f =>
        apply Agree.of_silent
        intro w s
        exact Pulls.of_step hwanted (step_delivered ..) (by rw [hnext]; rfl)
      | ok cursor =>
        cases cursor with
        | none =>
          apply Agree.of_silent
          intro w s
          exact Pulls.of_step hwanted (step_delivered ..) (by rw [hnext]; rfl)
        | some cursor =>
          obtain ⟨pulled, requests, left, hboth⟩ := h wanted cursor fetched hwanted
          refine ⟨pulled, requests, left, ?_⟩
          intro q q' log log'
          obtain ⟨hplain, hretrying⟩ := hboth q q' log log'
          exact ⟨Pulls.of_step hwanted (step_delivered ..) (by rw [hnext]; exact hplain),
            Pulls.of_step hwanted (step_delivered ..) (by rw [hnext]; exact hretrying)⟩
  | cons record records ih =>
    by_cases hwanted : wanted = some 0
    · subst hwanted
      exact .of_silent fun _ _ => .enough
    · obtain ⟨pulled, requests, left, hboth⟩ := ih (wanted.map (· - 1)) (fetched + 1)
      refine ⟨pulled.cons record, requests, left, ?_⟩
      intro q q' log log'
      obtain ⟨hplain, hretrying⟩ := hboth q q' log log'
      exact ⟨Pulls.of_step hwanted rfl ⟨_, hplain, rfl⟩,
        Pulls.of_step hwanted rfl ⟨_, hretrying, rfl⟩⟩

theorem Agree.request (hfits : ∀ turn ∈ turns, turn.Fits p) (hwanted : wanted ≠ some 0)
    (base : List Char) (cursor : Option Value) (fetched : Nat) :
    Agree config owns t token path p turns wanted (.request base cursor fetched 0) := by
  induction turns generalizing wanted cursor fetched with
  | nil =>
    -- the script is over
    refine ⟨⟨[], .failed (.unreachable "no response left"), none⟩,
      [pageRequest config path base cursor], [], ?_⟩
    intro q q' log log'
    constructor <;>
    · refine pulls_answered hwanted rfl rfl ?_
      rfl
  | cons turn turns ih =>
    have hturn := hfits turn (by simp)
    have hleft : ∀ i < turn.refusals.length, (0 + i + 1 : Nat) < p.attempts := by
      intro i hi
      have hne : turn.refusals ≠ [] := List.length_pos_iff.1 (by omega)
      have := hturn.attempts_left hne
      omega
    have hrange : ∀ i < turn.refusals.length, p.InRange (0 + i + 1) := by
      intro i hi
      exact hturn.in_range (0 + i + 1) (by omega) (by omega)
    rcases landing_cases base fetched turn.answer with ⟨f, hf⟩ | ⟨records, page, hpage⟩
    · refine ⟨⟨[], .failed f, none⟩, [pageRequest config path base cursor], turns, ?_⟩
      intro q q' log log'
      constructor
      · refine pulls_answered hwanted (next_cons turn.answer _) turn.answered ?_
        rw [hf]
        rfl
      · rw [script_cons]
        refine pulls_turn rfl hwanted turn.refused turn.answered hleft hrange ?_
        rw [hf]
        simp [Resumes, transcript, transcript_nil]
    · -- the pages after this one have the rest of the turns
      have hrest : ∀ wanted cursor fetched, wanted ≠ some 0 →
          Agree config owns t token path p turns wanted
            (.request base (some cursor) fetched 0) := by
        intro wanted cursor fetched hwanted
        exact ih (fun u hu => hfits u (by simp [hu])) hwanted (some cursor) fetched
      obtain ⟨pulled, requests, left, hboth⟩ := Agree.deliver page hrest records wanted fetched
      refine ⟨pulled, pageRequest config path base cursor :: requests, left, ?_⟩
      intro q q' log log'
      constructor
      · refine pulls_answered hwanted (next_cons turn.answer _) turn.answered ?_
        rw [hpage]
        simpa [Resumes] using (hboth q q' _ log').1
      · rw [script_cons]
        refine pulls_turn rfl hwanted turn.refused turn.answered hleft hrange ?_
        rw [hpage]
        simpa [Resumes, transcript] using (hboth q q' log _).2

theorem answers_eq (turns : List Turn) : answers turns = turns.map Turn.answer := by
  unfold answers
  induction turns with
  | nil => rfl
  | cons turn turns ih =>
    have hrefusals : turn.refusals.filter (fun reply => !isRefusal reply) = [] := by
      rw [List.filter_eq_nil_iff]
      intro reply hreply
      simp [turn.refused reply hreply]
    rw [script_cons, List.filter_append, hrefusals, List.filter_cons_of_pos, ih]
    · rfl
    · simp [turn.answered]

/-- **Retries do not show.** On a script whose refusals leave attempts, a walk with retries
gives the items, the ending and the place that a walk without retries gives on the script
without the refusals, with the page size as the limit where the query has none. Its requests
are those of the other walk, each sent once more for every refusal in its turn of the script,
and the waits between them double from the first one up to the maximum, in each turn anew. -/
theorem retries_do_not_show (config : Config) (owns : Bool) (model : String)
    (q : Option Query) (options : Option RetryPolicy) (p : Schedule)
    (hp : options.getD config.retry = p.policy) (turns : List Turn)
    (hfits : ∀ turn ∈ turns, turn.Fits p) (wanted : Option Nat) (t : Tape)
    (token : Option AccessToken) (log log' : List Event) :
    let c := openClient config owns
    let given := q.getD .empty
    let paged := if given.limit.isSome then given else given.withLimit p.pageSize
    ∃ pulled requests left,
      Pulls ((Client.stream model (some paged)).step c) wanted .unstarted
        (scripted t token (answers turns) log)
        (pulled, scripted t token (answers left)
          ((requests.map Event.requested).reverse ++ log)) ∧
      Pulls ((c.streamWithRetry model q options).step c) wanted .unstarted
        (scripted t token (script turns) log')
        (pulled, scripted t token (script left)
          ((transcript p turns requests).reverse ++ log')) := by
  intro c given paged
  have hbase : (Client.stream model (some paged)).baseQuery = paged.render := rfl
  have hbase' : (c.streamWithRetry model q options).baseQuery = paged.render := by
    rw [baseQuery, Client.streamWithRetry, show c.config = config from rfl, hp]
    rfl
  simp only [answers_eq]
  by_cases hwanted : wanted = some 0
  · subst hwanted
    refine ⟨⟨[], .enough, some .unstarted⟩, [], turns, ?_⟩
    rw [transcript_nil]
    exact ⟨Pulls.enough, Pulls.enough⟩
  · cases hrender : paged.render with
    | error f =>
      refine ⟨⟨[], .failed f, none⟩, [], turns, ?_⟩
      rw [transcript_nil]
      constructor
      · exact Pulls.of_step hwanted (step_unstarted _) (by rw [hbase, hrender]; rfl)
      · exact Pulls.of_step hwanted (step_unstarted _) (by rw [hbase', hrender]; rfl)
    | ok base =>
      have hagree : Agree config owns t token (Client.modelPath model) p turns wanted
          (.request base none 0 0) := .request hfits hwanted base none 0
      obtain ⟨pulled, requests, left, hboth⟩ := hagree
      obtain ⟨hplain, hretrying⟩ := hboth (some paged) q log log'
      refine ⟨pulled, requests, left, ?_, ?_⟩
      · exact Pulls.of_step hwanted (step_unstarted _) (by rw [hbase, hrender]; exact hplain)
      · refine Pulls.of_step hwanted (step_unstarted _) ?_
        rw [hbase', hrender, Client.streamWithRetry, show c.config = config from rfl, hp]
        exact hretrying

/-- A client of some portal, and a script that holds nothing else. -/
def portal : Client Tape :=
  openClient ⟨"https://test.api", "https://test.api", .null, .null, .null, .int 30, .standard,
    .standard⟩ false

def blank : Tape :=
  ⟨[], [], [], 0, []⟩

def refusal : Reply :=
  .answered ⟨429, [], 900⟩

/-- A page without records after two refusals. -/
def lateTurn : Turn :=
  ⟨[refusal, refusal], .answered ⟨200, "\x7b\x7d".toUTF8.toList, 900⟩, by decide, rfl⟩

/-- Two retries, after 10 and 15 milliseconds. -/
def quick : Schedule :=
  ⟨.int 100, 10, 15, 3⟩

theorem retries_do_not_show_quick :
    (some quick.policy).getD portal.config.retry = quick.policy ∧
      (∀ turn ∈ [lateTurn], turn.Fits quick) ∧
      ∃ pulled requests left,
        Pulls ((Client.stream "m" (some (Query.empty.withLimit (.int 100)))).step portal) none
          .unstarted (scripted blank none (answers [lateTurn]) [])
          (pulled, scripted blank none (answers left)
            ((requests.map Event.requested).reverse ++ [])) ∧
        Pulls ((portal.streamWithRetry "m" none (some quick.policy)).step portal) none
          .unstarted (scripted blank none (script [lateTurn]) [])
          (pulled, scripted blank none (script left)
            ((transcript quick [lateTurn] requests).reverse ++ [])) := by
  have hfits : ∀ turn ∈ [lateTurn], turn.Fits quick := by
    intro turn hturn
    rw [List.mem_singleton.1 hturn]
    refine ⟨fun _ => by decide, ?_⟩
    intro retry hlow hhigh
    have hretry : retry = 1 ∨ retry = 2 := by
      have : lateTurn.refusals.length = 2 := rfl
      omega
    rcases hretry with rfl | rfl <;> intro negative <;> cases negative <;> decide +kernel
  exact ⟨rfl, hfits, retries_do_not_show portal.config false "m" none (some quick.policy) quick
    rfl [lateTurn] hfits none blank none [] []⟩

/-- No answer comes after a refusal. -/
def lostTurn : Turn :=
  ⟨[refusal], .unreachable "gone", by decide, rfl⟩

/-- The first wait is beyond the range of floating point. -/
def endless : Schedule :=
  ⟨.int 100, (10 ^ 400 : Nat), (10 ^ 400 : Nat), 5⟩

/-- A wait that cannot be told to the host ends the walk: that retry shows. -/
theorem endless_wait_shows :
    (lostTurn.refusals.length : Int) < endless.attempts ∧
      ¬∃ pulled s s',
        Pulls ((Client.stream "m" (some (Query.empty.withLimit (.int 100)))).step portal) none
          .unstarted (scripted blank none (answers [lostTurn]) []) (pulled, s) ∧
        Pulls ((portal.streamWithRetry "m" none (some endless.policy)).step portal) none
          .unstarted (scripted blank none (script [lostTurn]) []) (pulled, s') := by
  refine ⟨by decide, ?_⟩
  rintro ⟨pulled, s, s', hplain, hretrying⟩
  have hlost : ∃ s, Pulls
      ((Client.stream "m" (some (Query.empty.withLimit (.int 100)))).step portal) none
      .unstarted (scripted blank none (answers [lostTurn]) [])
      (⟨[], .failed (.unreachable "gone"), none⟩, s) :=
    ⟨_, Pulls.of_step (by simp) rfl (Pulls.of_step (by simp) rfl rfl)⟩
  have hwait : endless.waitSeconds (0 + 1) = .infinite false := by decide +kernel
  have hoverflow : ∃ s, Pulls
      ((portal.streamWithRetry "m" none (some endless.policy)).step portal) none
      .unstarted (scripted blank none (script [lostTurn]) [])
      (⟨[], .failed .overflow, none⟩, s) := by
    refine ⟨scripted blank none [.unreachable "gone"]
      [.requested (pageRequest portal.config "/m" "?limit(100)".toList none)], ?_⟩
    refine Pulls.of_step (by simp) (step_unstarted _) ?_
    have hbase : (portal.streamWithRetry "m" none (some endless.policy)).baseQuery =
        .ok "?limit(100)".toList := rfl
    rw [hbase]
    exact Pulls.of_step (by simp) (request_overflow rfl rfl (by decide) hwait) rfl
  obtain ⟨s₁, hlost⟩ := hlost
  obtain ⟨s₂, hoverflow⟩ := hoverflow
  have hsame := hlost.unique hplain
  have hother := hoverflow.unique hretrying
  cases hsame
  cases hother

end DataPortal.PageWalk
