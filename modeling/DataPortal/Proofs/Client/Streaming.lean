import DataPortal.Proofs.Client.Collecting
/-!
# Streaming the pages of a model

A walk without retries asks for the first page, and for each further one with the cursor that the
page before it names. It yields the records of all pages in their order, and asks for no page
before it has yielded the records of the pages before that (`Streams`).
-/
namespace DataPortal.PageWalk

open Replay Service Walk

/-! ## Pages -/

/-- An answer that is an object with a list of records, or with none, and with what it tells of
other pages, if anything. -/
def IsPage (reply : Reply) (records : List Value) (links : Option Value) : Prop :=
  ∃ entries, Client.readReply reply = .ok (.dict entries) ∧
    (Value.lookup "_data" entries = some (.list records) ∨
      Value.lookup "_data" entries = none ∧ records = []) ∧
    Value.lookup "_page" entries = links

/-- What a page tells of other pages holds the cursor of the next one. -/
def NamesNext (links : Option Value) (cursor : String) : Prop :=
  ∃ entries, links = some (.dict entries) ∧
    Value.lookup "next" entries = some (.str cursor) ∧ cursor ≠ ""

/-- It holds no cursor. -/
def NamesNone (links : Option Value) : Prop :=
  links = none ∨ links = some .null ∨ ∃ entries, links = some (.dict entries) ∧
    (Value.lookup "next" entries = none ∨ Value.lookup "next" entries = some .null ∨
      Value.lookup "next" entries = some (.str ""))

/-- A page that names the next one. -/
structure InnerPage where
  reply : Reply
  records : List Value
  cursor : String
  names_next : ∃ links, IsPage reply records links ∧ NamesNext links cursor

/-- An answer after which no page is asked for: a page that names no other one, or a failure. -/
inductive Closes (reply : Reply) : List Value → Ending → Prop
  | last {records : List Value} {links : Option Value} : IsPage reply records links →
      NamesNone links → Closes reply records .ended
  | failed {f : Failure} : Client.readReply reply = .error f → Closes reply [] (.failed f)

/-- The request for the page of a cursor, or for the first page. -/
def pageAt (config : Config) (model : String) (base : List Char) : Option String → Request
  | none =>
    ⟨config.baseUrl ++ "/" ++ model ++ String.ofList base, [("Accept", "application/json")]⟩
  | some cursor =>
    ⟨config.baseUrl ++ "/" ++ model ++ String.ofList base ++ (if base = [] then "?" else "&") ++
      "page(\"" ++ cursor ++ "\")", [("Accept", "application/json")]⟩

/-- The records of some pages. -/
def recordsOf (pages : List InnerPage) : List Value :=
  pages.flatMap (·.records)

/-- The requests for a page and for those that are named after it. -/
def requestsFrom (config : Config) (model : String) (base : List Char) (cursor : Option String)
    (pages : List InnerPage) : List Request :=
  (cursor :: pages.map fun p => some p.cursor).map (pageAt config model base)

/-- What pulling gives from a page on, after some requests: all records and the ending, if more
are wanted than there are; else as many as are wanted, and each request was sent when all records
of the pages before it were not enough. -/
structure Streams (pages : List InnerPage) (records : List Value) (ending : Ending)
    (wanted : Option Nat) (pulled : Pulled Place Value) (sent : Nat) : Prop where
  sent_le : sent ≤ pages.length + 1
  whole : (∀ m ∈ wanted, (recordsOf pages ++ records).length < m) →
    pulled = ⟨recordsOf pages ++ records, ending, none⟩ ∧ sent = pages.length + 1
  start : ∀ m ∈ wanted, m ≤ (recordsOf pages ++ records).length →
    pulled.items = (recordsOf pages ++ records).take m ∧ pulled.ending = .enough ∧
      ∀ before < sent, (recordsOf (pages.take before)).length < m

theorem pageRequest_eq_pageAt (config : Config) (model : String) (base : List Char)
    (cursor : Option String) :
    pageRequest config (Client.modelPath model) base (cursor.map .str) =
      pageAt config model base cursor := by
  cases cursor with
  | none => simp [pageRequest, pageAt, pageQuery, Client.modelPath, String.append_assoc]
  | some cursor =>
    have hquery : String.ofList (pageQuery base (some (.str cursor))) =
        String.ofList base ++ (if base = [] then "?" else "&") ++ "page(\"" ++ cursor ++ "\")" := by
      rw [← String.toList_inj]
      cases base <;> simp [pageQuery, Query.appendClause, Query.pageClause, Query.clause,
        Query.quoted, Value.display]
    rw [pageRequest, pageAt, Option.map_some, hquery, Client.modelPath]
    simp only [String.append_assoc]

/-! ## Reading pages -/

variable {reply : Reply} {records : List Value} {links : Option Value} {cursor : String}

theorem IsPage.landing_eq (h : IsPage reply records links) (base : List Char) (fetched : Nat) :
    ∃ entries, landing base fetched reply =
        .ok (.moved (.deliver base records (.dict entries) fetched)) ∧
      Value.lookup "_page" entries = links := by
  obtain ⟨entries, hread, hdata, hlinks⟩ := h
  have hrecords : Client.pageRecords (.dict entries) = .ok records := by
    rw [Client.pageRecords, Client.pageData, Client.member]
    rcases hdata with hdata | ⟨hdata, rfl⟩ <;> rw [hdata] <;> rfl
  refine ⟨entries, ?_, hlinks⟩
  rw [landing, hread]
  simp only [bind, Except.bind, hrecords]
  rfl

/-- What an object tells of other pages is looked up there. -/
theorem nextCursor_dict {entries inner : List (Value × Value)}
    (hlinks : Value.lookup "_page" entries = some (.dict inner)) :
    nextCursor (.dict entries) =
      .ok (if (Value.entry "next" inner).isTruthy then some (Value.entry "next" inner)
        else none) := by
  cases inner with
  | nil =>
    simp only [nextCursor, Client.member, hlinks]
    rfl
  | cons entry inner =>
    simp only [nextCursor, Client.member, hlinks]
    rfl

theorem NamesNext.nextCursor_eq (h : NamesNext links cursor) {entries : List (Value × Value)}
    (hlinks : Value.lookup "_page" entries = links) :
    nextCursor (.dict entries) = .ok (some (.str cursor)) := by
  obtain ⟨inner, rfl, hnext, hcursor⟩ := h
  rw [nextCursor_dict hlinks, Value.entry, hnext]
  simp [Value.isTruthy, hcursor]

theorem NamesNone.nextCursor_eq (h : NamesNone links) {entries : List (Value × Value)}
    (hlinks : Value.lookup "_page" entries = links) :
    nextCursor (.dict entries) = .ok none := by
  rcases h with rfl | rfl | ⟨inner, rfl, hnext⟩
  · simp only [nextCursor, Client.member, hlinks]
    rfl
  · simp only [nextCursor, Client.member, hlinks]
    rfl
  · rw [nextCursor_dict hlinks, Value.entry]
    rcases hnext with hnext | hnext | hnext <;> rw [hnext] <;> rfl

/-! ## Records of a page -/

section AnyWorld

variable {σ : Type} {c : Client σ} {w : PageWalk} {base : List Char} {page : Value}
  {fetched m : Nat} {wanted : Option Nat} {s s' : Session σ} {rest : List Value}
  {ending : Ending} {last : Option Place}

/-- The records of a page that are not enough are all delivered. -/
theorem pulls_records (records : List Value) (hfew : ∀ m ∈ wanted, records.length < m)
    (h : Pulls (w.step c) (wanted.map (· - records.length))
      (.deliver base [] page (fetched + records.length)) s (⟨rest, ending, last⟩, s')) :
    Pulls (w.step c) wanted (.deliver base records page fetched) s
      (⟨records ++ rest, ending, last⟩, s') := by
  induction records generalizing wanted fetched with
  | nil => simpa using h
  | cons record records ih =>
    have hwanted : wanted ≠ some 0 := by
      rintro rfl
      exact absurd (hfew 0 rfl) (by omega)
    have hrest : Pulls (w.step c) (wanted.map (· - 1)) (.deliver base records page (fetched + 1)) s
        (⟨records ++ rest, ending, last⟩, s') := by
      apply ih
      · intro m hm
        obtain ⟨n, hn, rfl⟩ := Option.mem_map.1 hm
        have := hfew n hn
        rw [List.length_cons] at this
        omega
      · simpa [Function.comp_def, Nat.sub_sub, Nat.add_assoc, Nat.add_comm 1] using h
    exact Pulls.of_step hwanted rfl ⟨_, hrest, rfl⟩

/-- As many records of a page as are enough are delivered. -/
theorem pulls_some_records (records : List Value) (hm : m ≤ records.length) :
    ∃ place, Pulls (w.step c) (some m) (.deliver base records page fetched) s
      (⟨records.take m, .enough, some place⟩, s) := by
  induction records generalizing m fetched with
  | nil =>
    obtain rfl : m = 0 := by simpa using hm
    exact ⟨_, Pulls.enough⟩
  | cons record records ih =>
    cases m with
    | zero => exact ⟨_, Pulls.enough⟩
    | succ m =>
      obtain ⟨place, hrest⟩ : ∃ place, Pulls (w.step c) (some m)
          (.deliver base records page (fetched + 1)) s (⟨records.take m, .enough, some place⟩, s) :=
        ih (by simpa using hm)
      exact ⟨place, Pulls.of_step (by simp) rfl ⟨_, hrest, rfl⟩⟩

end AnyWorld

/-! ## What pulling gives -/

section Pages

variable {p : InnerPage} {pages : List InnerPage} {records : List Value} {ending : Ending}
  {wanted : Option Nat} {m sent : Nat} {pulled : Pulled Place Value}

theorem recordsOf_cons (p : InnerPage) (pages : List InnerPage) :
    recordsOf (p :: pages) = p.records ++ recordsOf pages := rfl

/-- The records of the first page are enough. -/
theorem Streams.of_enough (first : List Value) (hfirst : first <+: recordsOf pages ++ records)
    (hm : m ≠ 0) (henough : m ≤ first.length) (ending : Ending) (place : Option Place) :
    Streams pages records ending (some m) ⟨first.take m, .enough, place⟩ 1 where
  sent_le := by omega
  whole h := by
    have hlt := h m rfl
    have := hfirst.length_le
    omega
  start m' hm' _ := by
    cases hm'
    refine ⟨?_, rfl, ?_⟩
    · obtain ⟨rest, hrest⟩ := hfirst
      rw [← hrest, List.take_append_of_le_length henough]
    · intro before hbefore
      obtain rfl : before = 0 := by omega
      exact Nat.pos_of_ne_zero hm

/-- A page that names no other one is the last one. -/
theorem Streams.of_last (hfew : ∀ m ∈ wanted, records.length < m) (ending : Ending) :
    Streams [] records ending wanted ⟨records, ending, none⟩ 1 where
  sent_le := by simp
  whole _ := ⟨rfl, rfl⟩
  start m hm hle := by
    have := hfew m hm
    have : (recordsOf [] ++ records).length = records.length := rfl
    omega

/-- Where the records of a page are not enough, those of the pages after it are asked for. -/
theorem Streams.cons (hfew : ∀ m ∈ wanted, p.records.length < m)
    (h : Streams pages records ending (wanted.map (· - p.records.length)) pulled sent) :
    Streams (p :: pages) records ending wanted
      ⟨p.records ++ pulled.items, pulled.ending, pulled.place⟩ (sent + 1) where
  sent_le := by
    have := h.sent_le
    rw [List.length_cons]
    omega
  whole hless := by
    have hrest : ∀ m ∈ wanted.map (· - p.records.length),
        (recordsOf pages ++ records).length < m := by
      intro m hm
      obtain ⟨n, hn, rfl⟩ := Option.mem_map.1 hm
      have := hless n hn
      rw [recordsOf_cons, List.append_assoc, List.length_append] at this
      omega
    obtain ⟨rfl, hsent⟩ := h.whole hrest
    rw [recordsOf_cons, List.append_assoc, hsent]
    exact ⟨rfl, rfl⟩
  start m hm hle := by
    have hlt := hfew m hm
    rw [recordsOf_cons, List.append_assoc] at hle ⊢
    rw [List.length_append] at hle
    obtain ⟨hitems, hending, hbefore⟩ :=
      h.start (m - p.records.length) (Option.mem_map.2 ⟨m, hm, rfl⟩) (by omega)
    refine ⟨?_, hending, ?_⟩
    · have htake : (p.records ++ (recordsOf pages ++ records)).take m =
          p.records ++ (recordsOf pages ++ records).take (m - p.records.length) := by
        rw [List.take_append, List.take_of_length_le hlt.le]
      rw [htake, ← hitems]
    · intro before hlate
      cases before with
      | zero =>
        rw [List.take_zero]
        exact (Nat.zero_le _).trans_lt hlt
      | succ before =>
        have := hbefore before (by omega)
        rw [List.take_succ_cons, recordsOf_cons, List.length_append]
        omega

end Pages

/-! ## Pulling from a script of pages -/

section Scripts

variable {config : Config} {owns : Bool} {t : Tape} {token : Option AccessToken} {model : String}
  {q : Option Query} {base : List Char} {cursor : Option String} {fetched : Nat}
  {wanted : Option Nat} {reply final : Reply} {rest : List Reply} {log : List Event}
  {records : List Value} {ending : Ending}

/-- A page is asked for, and the walk goes on from its answer. -/
theorem pulls_of_landing (hwanted : wanted ≠ some 0) {r : Pulled Place Value × Session Tape}
    (h : Resumes ((Client.stream model q).step (openClient config owns)) wanted
      (landing base fetched reply)
      (scripted t token rest (.requested (pageAt config model base cursor) :: log)) r) :
    Pulls ((Client.stream model q).step (openClient config owns)) wanted
      (.request base (cursor.map .str) fetched 0) (scripted t token (reply :: rest) log) r := by
  have hrequest : (Client.stream model q).request (openClient config owns) base
      (cursor.map .str) fetched 0 (scripted t token (reply :: rest) log) =
      (landing base fetched reply, scripted t token rest
        (.requested (pageRequest config (Client.modelPath model) base (cursor.map .str)) :: log)) :=
    request_of_answer rfl (get_scripted _ (next_cons reply rest)) (.inl rfl)
  rw [pageRequest_eq_pageAt] at hrequest
  exact Pulls.of_step hwanted hrequest h

/-- The records of a page are enough, or all of them are delivered and the walk goes on behind
them. -/
theorem wanted_cases (hwanted : wanted ≠ some 0) (records : List Value) :
    (∃ m, wanted = some m ∧ m ≠ 0 ∧ m ≤ records.length) ∨
      (∀ m ∈ wanted, records.length < m) ∧ wanted.map (· - records.length) ≠ some 0 := by
  cases wanted with
  | none => exact .inr ⟨by simp, by simp⟩
  | some m =>
    by_cases hm : m ≤ records.length
    · exact .inl ⟨m, rfl, by simpa using hwanted, hm⟩
    · refine .inr ⟨?_, ?_⟩
      · intro m' hm'
        cases hm'
        omega
      · rw [Option.map_some, ne_eq, Option.some.injEq]
        omega

/-- The last answer ends the stream, unless enough of its records are wanted. -/
theorem pulls_last (hfinal : Closes final records ending) (hwanted : wanted ≠ some 0) :
    ∃ pulled, Pulls ((Client.stream model q).step (openClient config owns)) wanted
        (.request base (cursor.map .str) fetched 0) (scripted t token (final :: rest) log)
        (pulled,
          scripted t token rest (.requested (pageAt config model base cursor) :: log)) ∧
      Streams [] records ending wanted pulled 1 := by
  rcases wanted_cases hwanted records with ⟨m, rfl, hm, henough⟩ | ⟨hfew, hmore⟩
  · cases hfinal with
    | failed _ => exact absurd henough (by simpa using hm)
    | last hpage _ =>
      obtain ⟨entries, hlanding, -⟩ := hpage.landing_eq base fetched
      obtain ⟨place, hpulls⟩ := pulls_some_records records henough
      refine ⟨_, pulls_of_landing hwanted (by rw [hlanding]; exact hpulls), ?_⟩
      exact .of_enough records List.prefix_rfl hm henough _ _
  · refine ⟨⟨records, ending, none⟩, pulls_of_landing hwanted ?_, .of_last hfew _⟩
    cases hfinal with
    | failed hread =>
      rw [landing, hread]
      rfl
    | last hpage hnone =>
      obtain ⟨entries, hlanding, hlinks⟩ := hpage.landing_eq base fetched
      rw [hlanding]
      have hend : Pulls ((Client.stream model q).step (openClient config owns))
          (wanted.map (· - records.length))
          (.deliver base [] (.dict entries) (fetched + records.length))
          (scripted t token rest (.requested (pageAt config model base cursor) :: log))
          (⟨[], .ended, none⟩, _) :=
        Pulls.of_step hmore (step_delivered ..) (by rw [hnone.nextCursor_eq hlinks]; rfl)
      have hall := pulls_records records hfew hend
      rwa [List.append_nil] at hall

/-- From a page on, the stream goes through the script. -/
theorem pulls_pages (hfinal : Closes final records ending) (pages : List InnerPage)
    (cursor : Option String) (fetched : Nat) (log : List Event) (hwanted : wanted ≠ some 0) :
    ∃ pulled sent, Pulls ((Client.stream model q).step (openClient config owns)) wanted
        (.request base (cursor.map .str) fetched 0)
        (scripted t token (pages.map (·.reply) ++ final :: rest) log)
        (pulled, scripted t token ((pages.map (·.reply) ++ final :: rest).drop sent)
          ((((requestsFrom config model base cursor pages).take sent).map .requested).reverse ++
            log)) ∧
      Streams pages records ending wanted pulled sent := by
  -- on the pages, with what is still wanted after the records of each
  induction pages generalizing wanted cursor fetched log with
  | nil =>
    obtain ⟨pulled, hpulls, hstreams⟩ := pulls_last hfinal hwanted
    exact ⟨pulled, 1, hpulls, hstreams⟩
  | cons p pages ih =>
    obtain ⟨links, hpage, hnext⟩ := p.names_next
    obtain ⟨entries, hlanding, hlinks⟩ := hpage.landing_eq base fetched
    rcases wanted_cases hwanted p.records with ⟨m, rfl, hm, henough⟩ | ⟨hfew, hmore⟩
    · obtain ⟨place, hpulls⟩ := pulls_some_records p.records henough
      refine ⟨_, 1, pulls_of_landing hwanted (by rw [hlanding]; exact hpulls), ?_⟩
      refine .of_enough p.records ?_ hm henough _ _
      rw [recordsOf_cons, List.append_assoc]
      exact List.prefix_append ..
    · obtain ⟨pulled, sent, hpulls, hstreams⟩ := ih (some p.cursor) (fetched + p.records.length)
        (.requested (pageAt config model base cursor) :: log) hmore
      refine ⟨⟨p.records ++ pulled.items, pulled.ending, pulled.place⟩, sent + 1,
        pulls_of_landing hwanted ?_, .cons hfew hstreams⟩
      rw [hlanding]
      refine pulls_records p.records hfew ?_
      refine Pulls.of_step hmore (step_delivered ..) ?_
      rw [hnext.nextCursor_eq hlinks]
      simpa [requestsFrom, Resumes] using hpulls

/-- **A stream follows the cursors and asks for no page too early.** On a script of pages each of
which names the next one, up to one that names none or to a failure, pulling from a stream gives
the records of all pages in their order, and then ends, or fails as the last answer does, after one
request for each page: the first with the query, the others with the query and the one cursor that
the page before names. Where fewer records are wanted these are the first ones, and a page is asked
for only when all records of the pages before it are not enough. Nothing is asked for where the
query has no text. -/
theorem streams_every_page (config : Config) (owns : Bool) (model : String) (q : Option Query)
    (pages : List InnerPage) (hfinal : Closes final records ending) (rest : List Reply) (t : Tape)
    (token : Option AccessToken) (log : List Event) (wanted : Option Nat) :
    let step := (Client.stream model q).step (openClient config owns)
    let script := pages.map (·.reply) ++ final :: rest
    match Client.queryText q with
    | .error f => wanted ≠ some 0 →
      Pulls step wanted .unstarted (scripted t token script log)
        (⟨[], .failed f, none⟩, scripted t token script log)
    | .ok base =>
      let requests := requestsFrom config model base none pages
      ∃ pulled sent, Pulls step wanted .unstarted (scripted t token script log)
          (pulled, scripted t token (script.drop sent)
            (((requests.take sent).map .requested).reverse ++ log)) ∧
        Streams pages records ending wanted pulled sent := by
  intro step script
  have hbase : (Client.stream model q).baseQuery = Client.queryText q := rfl
  cases hquery : Client.queryText q with
  | error f =>
    intro hwanted
    exact Pulls.of_step hwanted (step_unstarted _) (by rw [hbase, hquery]; rfl)
  | ok base =>
    by_cases hwanted : wanted = some 0
    · subst hwanted
      refine ⟨⟨[], .enough, some .unstarted⟩, 0, Pulls.enough, ⟨by omega, ?_, ?_⟩⟩
      · intro h
        exact absurd (h 0 rfl) (by omega)
      · intro m hm _
        cases hm
        exact ⟨by simp, rfl, by simp⟩
    · obtain ⟨pulled, sent, hpulls, hstreams⟩ := pulls_pages hfinal pages none 0 log hwanted
      refine ⟨pulled, sent, Pulls.of_step hwanted (step_unstarted _) ?_, hstreams⟩
      rw [hbase, hquery]
      exact hpulls

end Scripts

/-! ## A stream of two pages -/

open Client

/-- A page with a record that names another one. -/
def namingPage : InnerPage where
  reply := firstOfTwo
  records := [onlyRecord]
  cursor := "c"
  names_next := ⟨_, ⟨_, readReply_firstOfTwo, .inl rfl, rfl⟩, _, rfl, rfl, by decide⟩

/-- A page without records that names no other one. -/
def barePage : Reply :=
  page "\x7b\x7d"

theorem closes_barePage : Closes barePage [] .ended :=
  .last ⟨[], readReply_page [.openObject, .closeObject] rfl rfl rfl, .inr ⟨rfl, rfl⟩, rfl⟩
    (.inl rfl)

theorem streams_two_pages :
    Closes barePage [] .ended ∧
      Pulls ((Client.stream "m" none).step portal) none .unstarted
        (scripted blank none [firstOfTwo, barePage] [])
        (⟨[onlyRecord], .ended, none⟩, scripted blank none []
          [.requested ⟨"https://test.api/m?page(\"c\")", [("Accept", "application/json")]⟩,
            .requested ⟨"https://test.api/m", [("Accept", "application/json")]⟩]) := by
  refine ⟨closes_barePage, ?_⟩
  obtain ⟨pulled, sent, hpulls, hstreams⟩ := streams_every_page portal.config false "m" none
    [namingPage] closes_barePage [] blank none [] none
  obtain ⟨rfl, rfl⟩ := hstreams.whole (by simp)
  exact hpulls

end DataPortal.PageWalk
