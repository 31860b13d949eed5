import DataPortal.Proofs.Client.Reaching
import DataPortal.Proofs.Client.Streaming
import DataPortal.Proofs.Client.TokenUse
import DataPortal.Proofs.Query.PageCursor
/-!
# The cursors that a walk follows

Each request of a walk over pages is for the cursor that the last page before it names, whatever
else was answered in between, and no request before the first page has one. So every further page
is asked for with the clause of that cursor at the end of its query, and whether the cursor can be
read there only depends on its characters.
-/
namespace DataPortal

open Outcome Query Service Walk

/-- A request as it is noted: its address and what it was answered. -/
def notedAnswer {σ : Type} (h : Host σ) (r : Request) (w : σ) : String × Reply :=
  (r.url, (h.get r w).1)

namespace PageWalk

/-- The last page among some answers, the newest of which come first. -/
def lastPage : List (String × Reply) → Option Value
  | [] => none
  | (_, reply) :: older =>
    match Client.readReply reply with
    | .ok page => some page
    | .error _ => lastPage older

/-- The last page names a cursor, or none; before the first page there is none. -/
def Names (requests : List (String × Reply)) (cursor : Option Value) : Prop :=
  match lastPage requests with
  | none => cursor = none
  | some page => nextCursor page = .ok cursor

/-- Each of some requests, the newest of which come first, is for the cursor that the last page
before it names. -/
def Follows (address : Option Value → String) (requests : List (String × Reply)) : Prop :=
  ∀ url reply older, (url, reply) :: older <:+ requests →
    ∃ cursor, Names older cursor ∧ url = address cursor

/-- How a walk stands with the requests that it has sent. -/
inductive IsAt (base : List Char) (requests : List (String × Reply)) : Place → Prop
  | unstarted (hnone : requests = []) : IsAt base requests .unstarted
  | request {cursor : Option Value} (hnames : Names requests cursor) (fetched sent : Nat) :
      IsAt base requests (.request base cursor fetched sent)
  | deliver {page : Value} (hpage : lastPage requests = some page) (records : List Value)
      (fetched : Nat) : IsAt base requests (.deliver base records page fetched)

/-- The place that a step leads to, if the walk goes on. -/
def nextPlace? : Except Failure (Progress Place Value) → Option Place
  | .ok (.moved next) | .ok (.item _ next) => some next
  | _ => none

/-- Where sending a page leads, by what its fetch comes to. -/
inductive SendsTo (base : List Char) (cursor : Option Value) (fetched sent : Nat) :
    Except Failure Value → Except Failure (Progress Place Value) → Prop
  | failed {result : Except Failure Value} (f : Failure) :
      SendsTo base cursor fetched sent result (.error f)
  | delivered (page : Value) (records : List Value) :
      SendsTo base cursor fetched sent (.ok page)
        (.ok (.moved (.deliver base records page fetched)))
  | again (f : Failure) :
      SendsTo base cursor fetched sent (.error f)
        (.ok (.moved (.request base cursor fetched (sent + 1))))

variable {σ : Type} {c : Client σ} {w : PageWalk} {base : List Char} {cursor : Option Value}
  {address : Option Value → String} {requests start : List (String × Reply)} {place : Place}
  {noted : σ → List (String × Reply)} {s : Session σ}

theorem Follows.cons (h : Follows address requests) (hnames : Names requests cursor)
    (reply : Reply) : Follows address ((address cursor, reply) :: requests) := by
  intro url reply' older hsuffix
  rcases List.suffix_cons_iff.1 hsuffix with heq | hsuffix
  · cases heq
    exact ⟨cursor, hnames, rfl⟩
  · exact h url reply' older hsuffix

theorem request_sendsTo (w : PageWalk) (fetched sent : Nat) {result : Except Failure Value}
    {s' : Session σ} (hfetch : c.fetch w.path (pageQuery base cursor) s = (result, s')) :
    SendsTo base cursor fetched sent result (w.request c base cursor fetched sent s).1 := by
  have houtcome : (c.fetch w.path (pageQuery base cursor)).outcome s = (.ok result, s') := by
    rw [Action.outcome, hfetch]
  rw [request, Action.bind_of_ok houtcome]
  cases result with
  | ok page =>
    dsimp only
    cases hrecords : Client.pageRecords page with
    | error f => exact .failed f
    | ok records => exact .delivered page records
  | error f =>
    cases w.retry with
    | none => exact .failed f
    | some p =>
      cases f with
      | reported e =>
        cases e with
        | rateLimit message body fetched' attempts =>
          dsimp only
          cases slowDown p body fetched (sent + 1) with
          | error f => exact .failed f
          | ok seconds => exact .again _
        | _ => exact .failed _
      | _ => exact .failed _

/-! ## One step -/

/-- A fetch sends its one request, or none where no token was to be had. -/
theorem fetch_noted (hnotes : c.host.Notes (notedAnswer c.host) noted) (path : String)
    (query : List Char) (s : Session σ) :
    (∃ f s', c.fetch path query s = (.error f, s') ∧ noted s'.outside = noted s.outside) ∨
      ∃ reply s', c.fetch path query s = (Client.readReply reply, s') ∧
        noted s'.outside =
          (c.config.baseUrl ++ path ++ String.ofList query, reply) :: noted s.outside := by
  have hkept := Client.keeps_headers hnotes.keeps s
  cases hheaders : c.headers s with
  | mk result s' =>
    rw [hheaders] at hkept
    cases result with
    | error f =>
      left
      rw [Client.fetch, Action.bind_of_error hheaders]
      exact ⟨f, s', rfl, hkept⟩
    | ok headers =>
      right
      refine ⟨_, _, Client.fetch_of_headers hheaders rfl, ?_⟩
      have hnote := hnotes.get
        ⟨c.config.baseUrl ++ path ++ String.ofList query, headers⟩ s'.outside
      rwa [hkept] at hnote

/-- An answer that is a page is delivered, and after any other answer the cursor is still the
same. -/
theorem SendsTo.isAt {url : String} {reply : Reply} {fetched sent : Nat}
    {progress : Except Failure (Progress Place Value)}
    (h : SendsTo base cursor fetched sent (Client.readReply reply) progress)
    (hnames : Names requests cursor) :
    ∀ next ∈ nextPlace? progress, IsAt base ((url, reply) :: requests) next := by
  intro next hnext
  generalize hread : Client.readReply reply = result at h
  cases h with
  | failed f => cases hnext
  | delivered page records =>
    cases hnext
    exact .deliver (by rw [lastPage, hread]) records fetched
  | again f =>
    cases hnext
    refine .request ?_ fetched (sent + 1)
    rwa [Names, lastPage, hread]

/-- The address of a page. -/
def pageAddress (c : Client σ) (w : PageWalk) (base : List Char) (cursor : Option Value) : String :=
  (pageRequest c.config w.path base cursor).url

/-- How a walk that started in one world stands in another. -/
structure HasSent (c : Client σ) (w : PageWalk) (base : List Char)
    (noted : σ → List (String × Reply)) (start : List (String × Reply)) (world : σ)
    (requests : List (String × Reply)) : Prop where
  noted_eq : noted world = requests ++ start
  follows : Follows (pageAddress c w base) requests

section Noted

variable (hnotes : c.host.Notes (notedAnswer c.host) noted)

include hnotes

/-- Whatever comes of a request, it was for the cursor that the last page names. -/
theorem HasSent.request (h : HasSent c w base noted start s.outside requests)
    (hnames : Names requests cursor) (fetched sent : Nat) :
    ∃ requests, HasSent c w base noted start
        (w.request c base cursor fetched sent s).2.outside requests ∧
      ∀ next ∈ nextPlace? (w.request c base cursor fetched sent s).1, IsAt base requests next := by
  -- a wait after the request is not noted
  have hsession : ∀ {result s'}, c.fetch w.path (pageQuery base cursor) s = (result, s') →
      noted (w.request c base cursor fetched sent s).2.outside = noted s'.outside := by
    intro result s' hfetch
    rcases request_session w fetched sent hfetch with hsame | ⟨seconds, hslept⟩
    · rw [hsame]
    · rw [hslept]
      exact hnotes.keeps.sleep seconds s'.outside
  rcases fetch_noted hnotes w.path (pageQuery base cursor) s with
    ⟨f, s', hfetch, hnoted⟩ | ⟨reply, s', hfetch, hnoted⟩
  · refine ⟨requests, ⟨?_, h.follows⟩, ?_⟩
    · rw [hsession hfetch, hnoted, h.noted_eq]
    · intro next hnext
      have hsends := request_sendsTo w fetched sent hfetch
      generalize (w.request c base cursor fetched sent s).1 = progress at hsends hnext
      cases hsends with
      | failed f => cases hnext
      | again f =>
        cases hnext
        exact .request hnames fetched (sent + 1)
  · refine ⟨(pageAddress c w base cursor, reply) :: requests, ⟨?_, h.follows.cons hnames reply⟩, ?_⟩
    · rw [hsession hfetch, hnoted, h.noted_eq]
      rfl
    · exact (request_sendsTo w fetched sent hfetch).isAt hnames

/-- So it is with every step. -/
theorem HasSent.step (hbase : w.baseQuery = .ok base)
    (h : HasSent c w base noted start s.outside requests) (hplace : IsAt base requests place) :
    ∃ requests, HasSent c w base noted start (w.step c place s).2.outside requests ∧
      ∀ next ∈ nextPlace? (w.step c place s).1, IsAt base requests next := by
  cases hplace with
  | unstarted hnone =>
    rw [step_unstarted, hbase]
    refine ⟨requests, h, ?_⟩
    intro next hnext
    cases hnext
    refine .request ?_ 0 0
    rw [hnone]
    rfl
  | request hnames fetched sent => exact h.request hnotes hnames fetched sent
  | @deliver page hpage records fetched =>
    cases records with
    | cons record records =>
      refine ⟨requests, h, ?_⟩
      intro next hnext
      cases hnext
      exact .deliver hpage records (fetched + 1)
    | nil =>
      rw [step_delivered]
      refine ⟨requests, h, ?_⟩
      intro next hnext
      cases hcursor : nextCursor page with
      | error f =>
        rw [hcursor] at hnext
        cases hnext
      | ok cursor =>
        rw [hcursor] at hnext
        cases cursor with
        | none => cases hnext
        | some cursor =>
          cases hnext
          refine .request ?_ fetched 0
          rwa [Names, hpage]

/-! ## Runs -/

theorem keeps_hasSent (hbase : w.baseQuery = .ok base) (start : List (String × Reply)) :
    Keeps (w.step c) fun _ _ place s =>
      ∃ requests, HasSent c w base noted start s.outside requests ∧ IsAt base requests place where
  moved := by
    rintro steps items place next s s' ⟨requests, hsent, hplace⟩ hstep
    obtain ⟨requests, hsent, hnext⟩ := hsent.step hnotes hbase hplace
    rw [hstep] at hsent hnext
    exact ⟨requests, hsent, hnext next rfl⟩
  item := by
    rintro steps items place next s s' a ⟨requests, hsent, hplace⟩ hstep
    obtain ⟨requests, hsent, hnext⟩ := hsent.step hnotes hbase hplace
    rw [hstep] at hsent hnext
    exact ⟨requests, hsent, hnext next rfl⟩

/-- Wherever pulling stops, each request was for the cursor that the last page before it names. -/
theorem exists_hasSent (hbase : w.baseQuery = .ok base) (budget : Nat) (wanted : Option Nat)
    (s : Session σ) :
    ∃ requests, HasSent c w base noted (noted s.outside)
      (pull (w.step c) budget wanted .unstarted s).2.outside requests := by
  have hkeeps := keeps_hasSent hnotes hbase (noted s.outside)
  have hstart : HasSent c w base noted (noted s.outside) s.outside [] := by
    refine ⟨rfl, ?_⟩
    intro url reply older hsuffix
    simp at hsuffix
  have hstops := @Keeps.stops _ _ _ _ _ _ [] _ hkeeps 0 ⟨[], hstart, .unstarted rfl⟩ budget wanted
  generalize pull (w.step c) budget wanted .unstarted s = run at hstops
  obtain ⟨⟨items, ending, last⟩, s'⟩ := run
  dsimp only at hstops ⊢
  cases hstops with
  | enough hholds =>
    obtain ⟨requests, hsent, -⟩ := hholds
    exact ⟨requests, hsent⟩
  | spent hholds =>
    obtain ⟨requests, hsent, -⟩ := hholds
    exact ⟨requests, hsent⟩
  | ended hholds hstep =>
    obtain ⟨requests, hsent, hplace⟩ := hholds
    obtain ⟨requests, hsent, -⟩ := hsent.step hnotes hbase hplace
    rw [hstep] at hsent
    exact ⟨requests, hsent⟩
  | failed hholds hstep =>
    obtain ⟨requests, hsent, hplace⟩ := hholds
    obtain ⟨requests, hsent, -⟩ := hsent.step hnotes hbase hplace
    rw [hstep] at hsent
    exact ⟨requests, hsent⟩

end Noted

/-- The query of the first page is empty or begins with its mark. -/
theorem head?_baseQuery (hbase : w.baseQuery = .ok base) : base.head? ≠ some '#' := by
  have hrender : ∀ q : Query, q.render = .ok base → base.head? ≠ some '#' := by
    intro q h
    obtain ⟨parts, -, h⟩ := bind_eq_ok.1 h
    rw [← pure_eq_ok.1 h, joinClauses]
    split <;> simp
  rw [baseQuery] at hbase
  split at hbase
  · cases hquery : w.query with
    | none =>
      rw [hquery] at hbase
      cases hbase
      simp
    | some q =>
      rw [hquery] at hbase
      exact hrender q hbase
  · exact hrender _ hbase

/-- **A cursor reaches the service exactly where nothing in it has a meaning there.** In every
world, with or without credentials and retries, and wherever pulling stops: each request of a walk
is for the cursor that the last page before it names, which is put at the end of the query of the
first page. Where that query has no number sign, the last clause of the whole query carries a
cursor that is a text if the cursor is plain, and else it does not. With a number sign, what comes
after it is no part of the query, and nothing that is carried is due to the cursor. -/
theorem cursor_carried_iff (hnotes : c.host.Notes (notedAnswer c.host) noted) (w : PageWalk)
    (hbase : w.baseQuery = .ok base) (budget : Nat) (wanted : Option Nat) (s : Session σ) :
    ∃ requests, noted (pull (w.step c) budget wanted .unstarted s).2.outside =
        requests ++ noted s.outside ∧
      ∀ url reply older, (url, reply) :: older <:+ requests →
        ∃ cursor, Names older cursor ∧
          url = c.config.baseUrl ++ w.path ++ String.ofList (pageQuery base cursor) ∧
          ∀ text, cursor = some (.str text) →
            (Carries (finalClause (pageQuery base cursor)) text.toList ↔
              '#' ∉ base ∧ IsPlainCursor text.toList ∨
                '#' ∈ base ∧ Carries (finalClause base) text.toList) := by
  obtain ⟨requests, hsent⟩ := exists_hasSent hnotes hbase budget wanted s
  refine ⟨requests, hsent.noted_eq, ?_⟩
  intro url reply older hsuffix
  obtain ⟨cursor, hnames, rfl⟩ := hsent.follows url reply older hsuffix
  refine ⟨cursor, hnames, rfl, ?_⟩
  rintro text rfl
  exact carries_pageQuery_iff (head?_baseQuery hbase) text

/-! ## Streams of two pages -/

open Replay

/-- A client of a script that notes the requests and their answers. -/
def noter : Client (Noted Tape (String × Reply)) :=
  Client.plain "https://test.api" (Replay.host.noting (notedAnswer Replay.host))

/-- A session with a script of some replies and a log, and what was noted. -/
def noting (replies : List Reply) (log : List Event) (notes : List (String × Reply)) :
    Session (Noted Tape (String × Reply)) :=
  ⟨⟨⟨[], replies, [], 0, log⟩, notes⟩, none⟩

theorem request_noting (cursor : Option Value) (fetched sent : Nat) (reply : Reply)
    (rest : List Reply) (log : List Event) (notes : List (String × Reply)) :
    (Client.stream "m" none).request noter [] cursor fetched sent
        (noting (reply :: rest) log notes) =
      (landing [] fetched reply,
        noting rest (.requested (pageRequest noter.config "/m" [] cursor) :: log)
          ((pageAddress noter (Client.stream "m" none) [] cursor, reply) :: notes)) :=
  request_of_answer rfl rfl (.inl rfl)

/-- What is noted of a stream of two pages. -/
theorem notes_two_pages (p : InnerPage) {final : Reply} (hfinal : Closes final [] .ended) :
    ∃ budget, (pull ((Client.stream "m" none).step noter) budget none .unstarted
        (noting [p.reply, final] [] [])).2.outside.notes =
      [(pageAddress noter (Client.stream "m" none) [] (some (.str p.cursor)), final),
        (pageAddress noter (Client.stream "m" none) [] none, p.reply)] := by
  obtain ⟨links, hpage, hnext⟩ := p.names_next
  obtain ⟨entries, hlanding, hlinks⟩ := hpage.landing_eq [] 0
  cases hfinal with
  | last hlast hnone =>
    obtain ⟨entries', hlanding', hlinks'⟩ := hlast.landing_eq [] (0 + p.records.length)
    let first := pageRequest noter.config "/m" [] none
    let second := pageRequest noter.config "/m" [] (some (.str p.cursor))
    let between := noting [final] [.requested first] [(first.url, p.reply)]
    let after := noting [] [.requested second, .requested first]
      [(second.url, final), (first.url, p.reply)]
    let step := (Client.stream "m" none).step noter
    have hend : Pulls step none (.deliver [] [] (.dict entries') (0 + p.records.length)) after
        (⟨[], .ended, none⟩, after) :=
      Pulls.of_step (by simp) (step_delivered ..) (by rw [hnone.nextCursor_eq hlinks']; rfl)
    have hsecond : Pulls step none (.request [] (some (.str p.cursor)) (0 + p.records.length) 0)
        between (⟨[], .ended, none⟩, after) :=
      Pulls.of_step (by simp) (request_noting _ _ 0 ..) (by rw [hlanding']; exact hend)
    have hbetween : Pulls step none (.deliver [] [] (.dict entries) (0 + p.records.length)) between
        (⟨[], .ended, none⟩, after) :=
      Pulls.of_step (by simp) (step_delivered ..)
        (by rw [hnext.nextCursor_eq hlinks]; exact hsecond)
    have hfew : ∀ m ∈ (none : Option Nat), p.records.length < m := by simp
    have hrecords := pulls_records p.records hfew hbetween
    have hfirst : Pulls step none (.request [] none 0 0) (noting [p.reply, final] [] [])
        (⟨p.records ++ [], .ended, none⟩, after) :=
      Pulls.of_step (by simp) (request_noting _ _ 0 ..) (by rw [hlanding]; exact hrecords)
    have hstart : Pulls step none .unstarted (noting [p.reply, final] [] [])
        (⟨p.records ++ [], .ended, none⟩, after) :=
      Pulls.of_step (by simp) (step_unstarted _) hfirst
    obtain ⟨budget, hbudget⟩ := hstart
    exact ⟨budget, by rw [hbudget budget le_rfl]; rfl⟩

/-- The cursor of a page that names it can be read. -/
theorem plain_cursor_is_carried :
    noter.host.Notes (notedAnswer noter.host) Noted.notes ∧
      (Client.stream "m" none).baseQuery = .ok [] ∧
      ∃ budget, (pull ((Client.stream "m" none).step noter) budget none .unstarted
          (noting [namingPage.reply, barePage] [] [])).2.outside.notes =
        [("https://test.api/m?page(\"c\")", barePage),
          ("https://test.api/m", namingPage.reply)] ∧
        Carries (finalClause "?page(\"c\")".toList) "c".toList := by
  have hnotes : noter.host.Notes (notedAnswer noter.host) Noted.notes :=
    Host.notes_noting Replay.host (notedAnswer Replay.host)
  refine ⟨hnotes, rfl, ?_⟩
  obtain ⟨budget, hrun⟩ := notes_two_pages namingPage closes_barePage
  obtain ⟨requests, hnoted, hrequests⟩ := cursor_carried_iff hnotes (Client.stream "m" none) rfl
    budget none (noting [namingPage.reply, barePage] [] [])
  have hall := hnoted.symm.trans hrun
  rw [show Noted.notes (noting [namingPage.reply, barePage] [] []).outside = [] from rfl,
    List.append_nil] at hall
  subst hall
  obtain ⟨cursor, hnames, -, hcarried⟩ := hrequests _ _ _ (List.suffix_refl _)
  have hcursor : cursor = some (.str "c") := by
    rw [Names, lastPage, show Client.readReply namingPage.reply = _ from
      Client.readReply_firstOfTwo] at hnames
    exact (Except.ok.inj hnames).symm
  subst hcursor
  have hplain : IsPlainCursor ['c'] := by
    constructor
    · simp
    · intro hpair
      have hlength := hpair.length_le
      simp at hlength
    · simp
  exact ⟨budget, hrun, (hcarried "c" rfl).2 (.inl ⟨by simp, hplain⟩)⟩

/-- A page that names a cursor with a double quote. -/
def quotingPage : InnerPage where
  reply := page "\x7b\"_data\":[],\"_page\":\x7b\"next\":\"a\\\"b\"\x7d\x7d"
  records := []
  cursor := "a\"b"
  names_next := ⟨_, ⟨[(.str "_data", .list []), (.str "_page", .dict [(.str "next", .str "a\"b")])],
    readReply_page [.openObject, .scalar (.str "_data"), .colon, .openList, .closeList, .comma,
      .scalar (.str "_page"), .colon, .openObject, .scalar (.str "next"), .colon,
      .scalar (.str "a\"b"), .closeObject, .closeObject] rfl rfl rfl, .inl rfl, rfl⟩,
    _, rfl, rfl, by decide⟩

/-- A double quote in a cursor ends the literal. -/
theorem quote_in_cursor_is_not_carried :
    ∃ budget, (pull ((Client.stream "m" none).step noter) budget none .unstarted
        (noting [quotingPage.reply, barePage] [] [])).2.outside.notes =
      [("https://test.api/m?page(\"a\"b\")", barePage),
        ("https://test.api/m", quotingPage.reply)] ∧
      Names [("https://test.api/m", quotingPage.reply)] (some (.str "a\"b")) ∧
      ¬Carries (finalClause "?page(\"a\"b\")".toList) "a\"b".toList := by
  obtain ⟨budget, hrun⟩ := notes_two_pages quotingPage closes_barePage
  refine ⟨budget, hrun, ?_, ?_⟩
  · obtain ⟨links, ⟨entries, hread, -, hlinks⟩, hnext⟩ := quotingPage.names_next
    rw [Names, lastPage, hread]
    exact hnext.nextCursor_eq hlinks
  · intro hcarries
    have hplain : IsPlainCursor "a\"b".toList := isPlainCursor_of_carries hcarries
    exact hplain.no_sign '"' (by simp) (by decide)

end PageWalk

end DataPortal
