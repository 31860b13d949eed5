import DataPortal.Client.Changes
import DataPortal.Proofs.Client.Backoff
import DataPortal.Proofs.Client.Reaching
import DataPortal.Proofs.Client.Requests
import DataPortal.Proofs.Service.Reading
import DataPortal.Replay
/-!
# Walking over pages of changes

A walk over the changes of a model ends at the first page that is not full, and goes on from the
last entry of one that is. With room for an entry on every page a full one has a last entry. With a
page size of zero or less even an empty page counts as full; exactly at such a page a walk fails,
and nowhere else, whatever pages it is answered with (`StandsAmong`, along its steps).
-/
namespace DataPortal

open Client Walk

namespace Client

variable {σ : Type} {c : Client σ} {R : σ → σ → Prop}

/-- A page of changes takes one request, and is what the reply to it is read as. -/
theorem changes_eq (hr : c.host.Keeps R) (hheaders : c.HasHeaders) (model : String)
    (since limit : Value) (s : Session σ) :
    ∃ r w token,
      r.url = c.config.baseUrl ++ changesPath model since ++ String.ofList (changesQuery limit) ∧
        R s.outside w ∧
        c.changes model since limit s =
          (readReply (c.host.get r w).1 >>= changesIn, ⟨(c.host.get r w).2, token⟩) := by
  obtain ⟨r, w, token, hurl, hkept, hfetch⟩ :=
    fetch_eq hr hheaders (changesPath model since) (changesQuery limit) s
  refine ⟨r, w, token, hurl, hkept, ?_⟩
  rw [changes, Action.bind_settle, hfetch]

/-- A service that answers one request for data after the other with the next page of changes. The
world counts these requests. -/
structure ServesPages (h : Host σ) (pages : Nat → List Change) (asked : σ → Nat) : Prop where
  counts : ∀ r w, asked (h.get r w).2 = asked w + 1
  keeps : h.Keeps fun w w' => asked w' = asked w
  answers : ∀ r w, (readReply (h.get r w).1 >>= changesIn) = .ok (pages (asked w))

end Client

namespace ChangeWalk

variable {σ : Type} {c : Client σ} {model : String} {size : Int} {start place : Place}
  {s s₀ : Session σ} {yielded left page : List Change}

/-- The walk with pages of some size, which may be any number. -/
def paged (model : String) (size : Int) : ChangeWalk :=
  ⟨model, .int size⟩

/-! ## The end of a page -/

theorem settle_isShort (model : String) (size : Int) (count : Nat) (s : Session σ) :
    Action.settle ((paged model size).isShort count) s =
      (.ok (decide ((count : Int) < size)), s) := by
  have hless : (paged model size).isShort count = Value.isLess (.int count) (.int size) := rfl
  rw [hless, Schedule.isLess_int]
  rfl

/-- A page that is not full is the last one. -/
theorem step_of_short (c : Client σ) (model : String) (hshort : (page.length : Int) < size)
    (s : Session σ) : (paged model size).step c (.deliver [] page) s = (.ok .ended, s) := by
  rw [step, Action.bind_of_ok (settle_isShort model size page.length s), decide_eq_true hshort]
  rfl

/-- After a full page the walk goes on from its last entry, if there is one. -/
theorem step_of_full (c : Client σ) (model : String) (hfull : size ≤ page.length)
    (s : Session σ) :
    (paged model size).step c (.deliver [] page) s =
      (match page.getLast? with
        | some last => .ok (.moved (.request (.int last.cid)))
        | none => .error .outOfRange, s) := by
  rw [step, Action.bind_of_ok (settle_isShort model size page.length s),
    decide_eq_false (Int.not_lt.2 hfull)]
  cases page.getLast? <;> rfl

/-- An empty page that counts as full has no last entry. -/
theorem step_of_empty (c : Client σ) (model : String) (hsize : size ≤ 0) (s : Session σ) :
    (paged model size).step c (.deliver [] []) s = (.error .outOfRange, s) :=
  step_of_full c model hsize s

/-- The entries left of a page are all yielded. -/
theorem reaches_page_end {w : ChangeWalk}
    (h : Reaches (w.step c) start s₀ yielded (.deliver left page) s) :
    Reaches (w.step c) start s₀ (yielded ++ left) (.deliver [] page) s := by
  induction left generalizing yielded with
  | nil => rwa [List.append_nil]
  | cons change left ih =>
    have hrest := ih (h.item rfl)
    rwa [List.append_assoc] at hrest

/-! ## Among the pages of a service -/

variable {pages : Nat → List Change} {asked : σ → Nat} {k : Nat} {since : Value}

/-- The entries of the first pages, one page after the other. -/
def entriesBefore (pages : Nat → List Change) (k : Nat) : List Change :=
  (List.range k).flatMap pages

theorem entriesBefore_succ (pages : Nat → List Change) (k : Nat) :
    entriesBefore pages (k + 1) = entriesBefore pages k ++ pages k := by
  simp [entriesBefore, List.range_succ]

/-- A walk goes on after each of the first pages: they are full and have a last entry. -/
def GoesOver (pages : Nat → List Change) (size : Int) (k : Nat) : Prop :=
  ∀ i < k, size ≤ (pages i).length ∧ pages i ≠ []

theorem GoesOver.succ (h : GoesOver pages size k) (hfull : size ≤ (pages k).length)
    (hne : pages k ≠ []) : GoesOver pages size (k + 1) := by
  intro i hi
  rcases Nat.lt_succ_iff_lt_or_eq.1 hi with hi | rfl
  · exact h i hi
  · exact ⟨hfull, hne⟩

/-- How a walk stands after some requests with what it has yielded: before the next one it has gone
over all pages that it got, and otherwise over all but the last, of which entries may be left. -/
inductive StandsAmong (pages : Nat → List Change) (size : Int) :
    Nat → List Change → Place → Prop where
  | request {k : Nat} (since : Value) : GoesOver pages size k →
      StandsAmong pages size k (entriesBefore pages k) (.request since)
  | deliver {k : Nat} {yielded left : List Change} : GoesOver pages size k →
      yielded ++ left = entriesBefore pages (k + 1) →
      StandsAmong pages size (k + 1) yielded (.deliver left (pages k))

/-- What a step leads to: the walk stands among the pages again, or ends at a page that is not
full, or fails at one that is full and empty. -/
def LeadsAmong (pages : Nat → List Change) (asked : σ → Nat) (size : Int)
    (yielded : List Change) (place : Place) :
    Except Failure (Progress Place Change) × Session σ → Prop
  | (.ok (.item a next), s) => StandsAmong pages size (asked s.outside) (yielded ++ [a]) next
  | (.ok (.moved next), s) => StandsAmong pages size (asked s.outside) yielded next
  | (.ok .ended, _) => ∃ page, place = .deliver [] page ∧ (page.length : Int) < size
  | (.error f, _) => f = .outOfRange ∧ place = .deliver [] [] ∧ size ≤ 0 ∧
      ∃ k, GoesOver pages size k ∧ pages k = [] ∧ yielded = entriesBefore pages k

section Serving

variable (hserver : ServesPages c.host pages asked) (hheaders : c.HasHeaders)

include hserver hheaders

/-- The page that is asked for is the one that comes next. -/
theorem step_next_page (model : String) (size : Int) (since : Value) (s : Session σ) :
    ∃ s', asked s'.outside = asked s.outside + 1 ∧
      (paged model size).step c (.request since) s =
        (.ok (.moved (.deliver (pages (asked s.outside)) (pages (asked s.outside)))), s') := by
  obtain ⟨r, w, token, -, hkept, hchanges⟩ :=
    changes_eq hserver.keeps hheaders model since (.int size) s
  rw [hserver.answers, hkept] at hchanges
  refine ⟨_, ?_, Action.bind_of_ok hchanges⟩
  rw [hserver.counts, hkept]

theorem StandsAmong.leads (model : String)
    (h : StandsAmong pages size (asked s.outside) yielded place) :
    LeadsAmong pages asked size yielded place ((paged model size).step c place s) := by
  generalize hcount : asked s.outside = count at h
  cases h with
  | request since hover =>
    obtain ⟨s', hasked, hstep⟩ := step_next_page hserver hheaders model size since s
    rw [hstep]
    show StandsAmong pages size (asked s'.outside) _ _
    rw [hasked, hcount]
    exact .deliver hover (entriesBefore_succ pages count).symm
  | @deliver k yielded left hover hsplit =>
    cases left with
    | cons change left =>
      show StandsAmong pages size (asked s.outside) _ _
      rw [hcount]
      refine .deliver hover ?_
      rw [← hsplit, List.append_assoc]
      rfl
    | nil =>
      rw [List.append_nil] at hsplit
      by_cases hshort : ((pages k).length : Int) < size
      · rw [step_of_short c model hshort]
        exact ⟨pages k, rfl, hshort⟩
      · have hfull : size ≤ (pages k).length := Int.not_lt.1 hshort
        rw [step_of_full c model hfull]
        cases hlast : (pages k).getLast? with
        | some last =>
          have hne : pages k ≠ [] := by
            rintro hempty
            rw [hempty] at hlast
            cases hlast
          show StandsAmong pages size (asked s.outside) _ _
          rw [hcount, hsplit]
          exact .request _ (hover.succ hfull hne)
        | none =>
          have hempty : pages k = [] := List.getLast?_eq_none_iff.1 hlast
          rw [hempty] at hfull ⊢
          rw [entriesBefore_succ, hempty, List.append_nil] at hsplit
          exact ⟨rfl, rfl, hfull, k, hover, hempty, hsplit⟩

/-- From a request on, a walk comes to the end of the next page. -/
theorem reaches_next_page
    (h : Reaches ((paged model size).step c) start s₀ yielded (.request since) s) :
    ∃ s', asked s'.outside = asked s.outside + 1 ∧
      Reaches ((paged model size).step c) start s₀ (yielded ++ pages (asked s.outside))
        (.deliver [] (pages (asked s.outside))) s' := by
  obtain ⟨s', hasked, hstep⟩ := step_next_page hserver hheaders model size since s
  exact ⟨s', hasked, reaches_page_end (h.moved hstep)⟩

variable (hfresh : asked s₀.outside = 0)

include hfresh

theorem standsAmong_of_reaches
    (h : Reaches ((paged model size).step c) (.request since) s₀ yielded place s) :
    StandsAmong pages size (asked s.outside) yielded place := by
  induction h with
  | start =>
    rw [hfresh]
    exact .request since fun i hi => absurd hi (Nat.not_lt_zero i)
  | moved _ hstep ih =>
    have hleads := ih.leads hserver hheaders model
    rwa [hstep] at hleads
  | item _ hstep ih =>
    have hleads := ih.leads hserver hheaders model
    rwa [hstep] at hleads

/-- A walk asks for a page if it goes over all those before it. -/
theorem exists_reaches_request (model : String) (since : Value) (h : GoesOver pages size k) :
    ∃ last s, asked s.outside = k ∧
      Reaches ((paged model size).step c) (.request since) s₀ (entriesBefore pages k)
        (.request last) s := by
  induction k with
  | zero => exact ⟨since, s₀, hfresh, .start⟩
  | succ k ih =>
    obtain ⟨last, s, hasked, hreaches⟩ := ih fun i hi => h i (by omega)
    obtain ⟨s', hasked', hend⟩ := reaches_next_page hserver hheaders hreaches
    rw [hasked] at hasked' hend
    obtain ⟨hfull, hne⟩ := h k (by omega)
    have hstep := step_of_full c model hfull s'
    rw [List.getLast?_eq_some_getLast hne] at hstep
    rw [entriesBefore_succ]
    exact ⟨_, s', hasked', hend.moved hstep⟩

/-- Of the places that a walk reaches, a step fails at the ends of the empty pages that count as
full. -/
theorem step_fails_iff
    (h : Reaches ((paged model size).step c) (.request since) s₀ yielded place s)
    (f : Failure) (s' : Session σ) :
    (paged model size).step c place s = (.error f, s') ↔
      f = .outOfRange ∧ s' = s ∧ place = .deliver [] [] ∧ size ≤ 0 := by
  constructor
  · intro hstep
    have hleads := (standsAmong_of_reaches hserver hheaders hfresh h).leads hserver hheaders model
    rw [hstep] at hleads
    obtain ⟨rfl, rfl, hsize, -⟩ := hleads
    rw [step_of_empty c model hsize] at hstep
    cases hstep
    exact ⟨rfl, rfl, rfl, hsize⟩
  · rintro ⟨rfl, rfl, rfl, hsize⟩
    exact step_of_empty c model hsize s'

/-- A walk that fails has gone over the pages before an empty one that counts as full. -/
theorem goesOver_of_pulls_failed {s' : Session σ}
    (h : Pulls ((paged model size).step c) none (.request since) s₀
      (⟨yielded, .failed .outOfRange, none⟩, s')) :
    size ≤ 0 ∧ ∃ k, GoesOver pages size k ∧ pages k = [] ∧ yielded = entriesBefore pages k := by
  obtain ⟨n, hpull⟩ := h
  -- pulling stops at a place that the walk reaches
  have hkeeps : Keeps ((paged model size).step c) fun _ items place s =>
      Reaches ((paged model size).step c) (.request since) s₀ items place s :=
    ⟨fun h hstep => h.moved hstep, fun h hstep => h.item hstep⟩
  have hstops := @Keeps.stops _ _ _ _ _ _ [] _ hkeeps 0 .start n none
  rw [hpull n (Nat.le_refl n)] at hstops
  cases hstops with
  | failed hreaches hstep =>
    have hleads := (standsAmong_of_reaches hserver hheaders hfresh hreaches).leads
      hserver hheaders model
    rw [hstep] at hleads
    obtain ⟨-, -, hsize, hpage⟩ := hleads
    exact ⟨hsize, hpage⟩

/-- A walk fails at the end of an empty page that counts as full if it goes over all those before
it. -/
theorem exists_pulls_failed (model : String) (since : Value) (hsize : size ≤ 0)
    (h : GoesOver pages size k) (hpage : pages k = []) :
    ∃ s', Pulls ((paged model size).step c) none (.request since) s₀
      (⟨entriesBefore pages k, .failed .outOfRange, none⟩, s') := by
  obtain ⟨last, s, hasked, hreaches⟩ :=
    exists_reaches_request hserver hheaders hfresh model since h
  obtain ⟨s', -, hend⟩ := reaches_next_page hserver hheaders hreaches
  rw [hasked, hpage, List.append_nil] at hend
  have hpulls := hend.pulls (Pulls.of_step (by simp) (step_of_empty c model hsize s') rfl)
  rw [List.append_nil] at hpulls
  exact ⟨s', hpulls⟩

end Serving

/-- **A walk fails exactly at an empty page that counts as full.** Of all places that it reaches, a
step fails only at the end of an empty page, and only with a page size of zero or less, since the
page has no last entry to go on from. So with such a size a walk fails at the first empty page, with
the entries of all pages before it yielded, and with any other size it never does. -/
theorem fails_exactly_at_empty_page (c : Client σ) (model : String) (size : Int)
    (pages : Nat → List Change) (asked : σ → Nat) (hserver : ServesPages c.host pages asked)
    (hheaders : c.HasHeaders) (since : Value) (s₀ : Session σ) (hfresh : asked s₀.outside = 0) :
    (∀ yielded place s,
      Reaches ((paged model size).step c) (.request since) s₀ yielded place s →
      ∀ f s', (paged model size).step c place s = (.error f, s') ↔
        f = .outOfRange ∧ s' = s ∧ place = .deliver [] [] ∧ size ≤ 0) ∧
      ∀ yielded,
        (∃ s', Pulls ((paged model size).step c) none (.request since) s₀
          (⟨yielded, .failed .outOfRange, none⟩, s')) ↔
        size ≤ 0 ∧ ∃ k, (∀ i < k, pages i ≠ []) ∧ pages k = [] ∧
          yielded = entriesBefore pages k := by
  constructor
  · intro yielded place s hreaches
    exact step_fails_iff hserver hheaders hfresh hreaches
  · intro yielded
    constructor
    · rintro ⟨s', hpulls⟩
      obtain ⟨hsize, k, hover, hpage⟩ := goesOver_of_pulls_failed hserver hheaders hfresh hpulls
      exact ⟨hsize, k, fun i hi => (hover i hi).2, hpage⟩
    · rintro ⟨hsize, k, hne, hpage, rfl⟩
      -- with no room every page counts as full
      have hover : GoesOver pages size k := fun i hi => ⟨by omega, hne i hi⟩
      exact exists_pulls_failed hserver hheaders hfresh model since hsize hover hpage

/-! ## Pages of numbered changes -/

open Service

/-- A change of which only the number is known. -/
def numbered (cid : Int) : Change :=
  ⟨cid, none, none, none, none, none, none, []⟩

/-- A page with a change of which only the number is told. -/
def numberPage (number : String) : Reply :=
  Service.page ("\x7b\"_data\":[\x7b\"_cid\":" ++ number ++ "\x7d]\x7d")

/-- A page without changes. -/
def emptyPage : Reply :=
  Service.page "\x7b\"_data\":[]\x7d"

theorem readReply_numberPage {text s : String} {cid : Int}
    (hpage : numberPage text = Service.page s)
    (hdetect : Text.Encoding.detect (Text.Utf8.encode s.toList) =
      (.utf8, Text.Utf8.encode s.toList))
    (htokens : Json.tokens .between (s.toList.map .char) = [.openObject, .scalar (.str "_data"),
      .colon, .openList, .openObject, .scalar (.str "_cid"), .colon, .scalar (.int cid),
      .closeObject, .closeList, .closeObject]) :
    (readReply (numberPage text) >>= changesIn) = .ok [numbered cid] := by
  rw [hpage, readReply_page _ hdetect htokens rfl]
  rfl

theorem readReply_numberPage_one : (readReply (numberPage "1") >>= changesIn) = .ok [numbered 1] :=
  readReply_numberPage rfl rfl rfl

theorem readReply_emptyPage : (readReply emptyPage >>= changesIn) = .ok [] := by
  rw [emptyPage, readReply_page [.openObject, .scalar (.str "_data"), .colon, .openList,
    .closeList, .closeObject] rfl rfl rfl]
  rfl

/-- A service with a change on its first page and none on any other. -/
def singleHost : Host Nat :=
  Host.answering fun _ requests =>
    (if requests = 0 then numberPage "1" else emptyPage, requests + 1)

def single : Client Nat :=
  plain "https://test.api" singleHost

def singlePages (k : Nat) : List Change :=
  if k = 0 then [numbered 1] else []

theorem single_serves : ServesPages single.host singlePages id where
  counts _ _ := rfl
  keeps := Host.keeps_answering _ (fun _ => rfl) fun huv hvw => hvw.trans huv
  answers _ requests := by
    show (readReply (if requests = 0 then numberPage "1" else emptyPage) >>= changesIn) =
      .ok (if requests = 0 then [numbered 1] else [])
    split
    · exact readReply_numberPage_one
    · exact readReply_emptyPage

/-- With room for nothing a walk fails at the second page, and with room for one entry at none. -/
theorem single_fails_without_room :
    ServesPages single.host singlePages id ∧ single.HasHeaders ∧
      (∃ s', Pulls ((paged "m" 0).step single) none (.request (.int 0)) ⟨0, none⟩
        (⟨[numbered 1], .failed .outOfRange, none⟩, s')) ∧
      ∀ yielded place s,
        Reaches ((paged "m" 1).step single) (.request (.int 0)) ⟨0, none⟩ yielded place s →
        ∀ f s', (paged "m" 1).step single place s ≠ (.error f, s') := by
  have hheaders : single.HasHeaders := hasHeaders_of_open rfl
  have hnone := fails_exactly_at_empty_page single "m" 0 singlePages id single_serves hheaders
    (.int 0) ⟨0, none⟩ rfl
  have hone := fails_exactly_at_empty_page single "m" 1 singlePages id single_serves hheaders
    (.int 0) ⟨0, none⟩ rfl
  refine ⟨single_serves, hheaders, (hnone.2 _).2 ⟨Int.le_refl 0, 1, ?_, rfl, rfl⟩, ?_⟩
  · intro i hi
    obtain rfl : i = 0 := by omega
    exact List.cons_ne_nil _ _
  · intro yielded place s hreaches f s' hstep
    have hsize := ((hone.1 yielded place s hreaches f s').1 hstep).2.2.2
    exact absurd hsize (by decide)

/-- An empty page that was asked for with room for nothing makes a walk fail. -/
theorem empty_page_without_room_fails :
    ∃ s', Pulls ((paged "m" 0).step (plain "https://test.api" Replay.host)) none
      (.request (.int 0)) (Replay.start ⟨[], [emptyPage], [], 0, []⟩)
      (⟨[], .failed .outOfRange, none⟩, s') := by
  let c := plain "https://test.api" Replay.host
  let s := Replay.start ⟨[], [emptyPage], [], 0, []⟩
  obtain ⟨s', hchanges⟩ : ∃ s', c.changes "m" (.int 0) (.int 0) s = (.ok [], s') := by
    have hfetch : c.fetch (changesPath "m" (.int 0)) (changesQuery (.int 0)) s =
        (readReply emptyPage, _) := fetch_of_headers (headers_of_open rfl s) rfl
    have hsettle : c.changes "m" (.int 0) (.int 0) s = _ := Action.bind_settle _ changesIn s
    simp only [hfetch, readReply_emptyPage] at hsettle
    exact ⟨_, hsettle⟩
  refine ⟨s', Pulls.of_step (by simp) (Action.bind_of_ok hchanges) ?_⟩
  exact Pulls.of_step (by simp) (step_of_empty c "m" (Int.le_refl 0) s') rfl

end ChangeWalk
end DataPortal
