import DataPortal.Proofs.Client.ChangePages
import Mathlib.Data.List.Basic
/-!
# Walking a change log that grows

A service keeps the changes of a model in a log, numbered in ascending order, and may add to it
at any moment. A walk yields every change after a number once and in order: what it has yielded
is at every moment the start of what it should yield (`Stands`), each page is asked for after the
last change yielded, and only a page that reached the end of the log ends the walk.
-/
namespace DataPortal

/-! ## The entries after a number -/

namespace ChangeLog

/-- The entries are numbered in ascending order. -/
def Ascending (entries : List Change) : Prop :=
  entries.Pairwise (·.cid < ·.cid)

/-- The entries of a log after a number. -/
def newer (since : Int) (log : List Change) : List Change :=
  log.filter (since < ·.cid)

/-- The number of the last of some entries, or else the given one. -/
def lastCid (since : Int) (entries : List Change) : Int :=
  (entries.getLast?.map (·.cid)).getD since

variable {since : Int} {log log' entries page : List Change} {a last : Change}

theorem Ascending.newer (h : Ascending log) (since : Int) : Ascending (newer since log) :=
  List.Pairwise.filter _ h

theorem Ascending.of_start (h : Ascending log) (hstart : entries <+: log) :
    Ascending entries :=
  List.Pairwise.sublist hstart.sublist h

/-- A log that grows only has more entries after those that it had. -/
theorem newer_mono (h : log <+: log') : newer since log <+: newer since log' :=
  h.filter _

theorem lastCid_append (h : page.getLast? = some last) :
    lastCid since (entries ++ page) = last.cid := by
  rw [lastCid, List.getLast?_append, h]
  rfl

/-- Entries after a later number are among those after an earlier one. -/
theorem newer_newer {later : Int} (h : since < later) :
    newer later (newer since log) = newer later log := by
  rw [newer, newer, newer, List.filter_filter]
  congr 1
  funext entry
  rw [Bool.eq_iff_iff, Bool.and_eq_true, decide_eq_true_iff, decide_eq_true_iff]
  omega

/-- After an entry of an ascending log come those that stand behind it. -/
theorem newer_cid {init rest : List Change} (h : Ascending (init ++ a :: rest)) :
    newer a.cid (init ++ a :: rest) = rest := by
  have hparts := List.pairwise_append.1 h
  have hbefore : newer a.cid init = [] := by
    rw [newer, List.filter_eq_nil_iff]
    intro entry hentry
    have hlt := hparts.2.2 entry hentry a (by simp)
    rw [decide_eq_true_iff]
    omega
  have hbehind : newer a.cid rest = rest := by
    rw [newer, List.filter_eq_self]
    intro entry hentry
    have hlt := (List.pairwise_cons.1 hparts.2.1).1 entry hentry
    exact decide_eq_true hlt
  have hself : newer a.cid (a :: rest) = newer a.cid rest := by
    rw [newer, List.filter_cons_of_neg (by simp)]
    rfl
  calc newer a.cid (init ++ a :: rest)
      = newer a.cid init ++ newer a.cid (a :: rest) := List.filter_append ..
    _ = rest := by rw [hbefore, hself, hbehind, List.nil_append]

/-- What comes after a start of the entries after a number is what comes after the last entry of
that start. -/
theorem newer_eq_append (h : Ascending log) (hstart : entries <+: newer since log) :
    newer since log = entries ++ newer (lastCid since entries) log := by
  rcases List.eq_nil_or_concat' entries with rfl | ⟨init, a, rfl⟩
  · rfl
  · obtain ⟨rest, hrest⟩ := hstart
    have hcut : newer since log = init ++ a :: rest := by
      rw [← hrest, List.append_assoc]
      rfl
    have hlast : lastCid since (init ++ [a]) = a.cid := lastCid_append rfl
    have hafter : since < a.cid := by
      have hmem : a ∈ newer since log := by simp [hcut]
      have hkept := (List.mem_filter.1 hmem).2
      exact of_decide_eq_true hkept
    have hasc : Ascending (init ++ a :: rest) := hcut ▸ h.newer since
    rw [hlast, ← newer_newer hafter, hcut, newer_cid hasc, List.append_assoc]
    rfl

end ChangeLog

open ChangeLog

/-! ## A service with a log -/

/-- The address of a page of changes after a number. -/
def ChangeLog.address (base model : String) (size : Nat) (since : Int) : String :=
  base ++ "/" ++ model ++ "/:changes/" ++ toString since ++ "?limit(" ++ toString size ++ ")"

theorem Value.toString_int (n : Int) : String.ofList (Value.intText n) = toString n := by
  cases n with
  | ofNat n => rfl
  | negSucc n =>
    have htext : toString (Int.negSucc n) = "-" ++ String.ofList (Text.digits (n + 1)) := rfl
    rw [Value.intText, if_pos (Int.negSucc_lt_zero n), htext, ← String.toList_inj]
    simp

theorem ChangeLog.address_eq (base model : String) (size : Nat) (since : Int) :
    base ++ Client.changesPath model (.int since) ++
      String.ofList (Client.changesQuery (.int size)) = address base model size since := by
  have hsince : String.ofList (Value.display (.int since)) = toString since :=
    Value.toString_int since
  have hsize : String.ofList (Value.display (.int size)) = toString size :=
    Value.toString_int size
  have hquery : String.ofList (Client.changesQuery (.int size)) =
      "?limit(" ++ toString size ++ ")" := by
    rw [← hsize, Client.changesQuery, ← String.toList_inj]
    simp [Query.clause]
  rw [Client.changesPath, Client.modelPath, hsince, hquery, address]
  simp only [String.append_assoc]

namespace Client

variable {σ : Type}

/-- A service that keeps an ascending log, and may add to it at any moment. Asked for a page of
changes after a number, it answers with the first entries after that number of the log as it
stands then. The world notes where each request was sent and how the log stood. -/
structure ServesChanges (h : Host σ) (address : Int → String) (size : Nat)
    (log : σ → List Change) (noted : σ → List (String × List Change)) : Prop where
  ascending : ∀ w, Ascending (log w)
  notes : h.Notes (fun r w => (r.url, log w)) noted
  grows : h.Keeps fun w w' => log w <+: log w'
  grows_asked : ∀ r w, log w <+: log (h.get r w).2
  answers : ∀ since r w, r.url = address since →
    (readReply (h.get r w).1 >>= changesIn) = .ok ((newer since (log w)).take size)

/-- The last request was sent when the log stood so. -/
def LastAsked (noted : σ → List (String × List Change)) (w : σ) (seen : List Change) : Prop :=
  ∃ url older, noted w = (url, seen) :: older

end Client

namespace ChangeWalk

open Client Walk

variable {σ : Type} {c : Client σ} {model : String} {size : Nat} {log : σ → List Change}
  {noted : σ → List (String × List Change)} {since : Int} {s s₀ : Session σ}
  {yielded : List Change} {place : Place}

/-- The walk with pages of some size. -/
def sized (model : String) (size : Nat) : ChangeWalk :=
  ⟨model, .int size⟩

/-! ## One step -/

/-- A page is asked for after the given number, of the log as it stands when it is asked for. -/
theorem step_request
    (hserver : ServesChanges c.host (address c.config.baseUrl model size) size log noted)
    (hheaders : c.HasHeaders) (last : Int) (s : Session σ) :
    ∃ seen page s', page = (newer last seen).take size ∧
      (sized model size).step c (.request (.int last)) s =
        (.ok (.moved (.deliver page page)), s') ∧
      noted s'.outside =
        (address c.config.baseUrl model size last, seen) :: noted s.outside ∧
      Ascending seen ∧ log s.outside <+: seen ∧ seen <+: log s'.outside := by
  have hkeeps := hserver.notes.keeps.and hserver.grows
  obtain ⟨r, w, token, hurl, ⟨hnoted, hgrown⟩, hchanges⟩ :=
    changes_eq hkeeps hheaders model (.int last) (.int size) s
  rw [address_eq] at hurl
  rw [hserver.answers last r w hurl] at hchanges
  refine ⟨log w, (newer last (log w)).take size, ⟨(c.host.get r w).2, token⟩, rfl, ?_, ?_,
    hserver.ascending w, hgrown, hserver.grows_asked r w⟩
  · exact Action.bind_of_ok hchanges
  · have hnote := hserver.notes.get r w
    rw [hnoted, hurl] at hnote
    exact hnote

/-- A page that is not full is the last one. -/
theorem step_short (c : Client σ) (model : String) {page : List Change}
    (hshort : page.length < size) (s : Session σ) :
    (sized model size).step c (.deliver [] page) s = (.ok .ended, s) :=
  step_of_short c model (Int.ofNat_lt.2 hshort) s

/-- After a full page the next one is asked for, from its last entry on. -/
theorem step_full (c : Client σ) (model : String) (hsize : 1 ≤ size) {page : List Change}
    (hfull : ¬page.length < size) (s : Session σ) :
    ∃ last, page.getLast? = some last ∧
      (sized model size).step c (.deliver [] page) s =
        (.ok (.moved (.request (.int last.cid))), s) := by
  have hne : page ≠ [] := by
    intro hempty
    rw [hempty, List.length_nil] at hfull
    omega
  have hlast : page.getLast? = some (page.getLast hne) := List.getLast?_eq_some_getLast hne
  have hstep := step_of_full c model (Int.ofNat_le.2 (Nat.not_lt.1 hfull)) s
  rw [hlast] at hstep
  exact ⟨page.getLast hne, hlast, hstep⟩

/-! ## What every step keeps -/

/-- How a walk stands with what it has yielded. Before a request it has missed nothing of the
log, and goes on after the last entry yielded. With entries of a page left it has yielded the
others, and before them what comes before the page in the log as it stood at the last request. -/
inductive Stands (log : σ → List Change) (noted : σ → List (String × List Change)) (since : Int)
    (size : Nat) (w : σ) (yielded : List Change) : Place → Prop where
  | request : yielded <+: newer since (log w) →
      Stands log noted since size w yielded (.request (.int (lastCid since yielded)))
  | deliver {seen before left page : List Change} : LastAsked noted w seen → Ascending seen →
      seen <+: log w → before <+: newer since seen →
      page = (newer (lastCid since before) seen).take size → yielded ++ left = before ++ page →
      Stands log noted since size w yielded (.deliver left page)

/-- What a step leads to, so that the walk stands there with what it has yielded then. -/
def GoesOn (log : σ → List Change) (noted : σ → List (String × List Change)) (since : Int)
    (address : Int → String) (size : Nat) (s : Session σ) (yielded : List Change) :
    Except Failure (Progress Place Change) × Session σ → Prop
  | (.ok (.item a next), s') =>
    Stands log noted since size s'.outside (yielded ++ [a]) next ∧
      noted s'.outside = noted s.outside
  | (.ok (.moved next), s') =>
    Stands log noted since size s'.outside yielded next ∧
      (noted s'.outside = noted s.outside ∨
        ∃ seen, noted s'.outside = (address (lastCid since yielded), seen) :: noted s.outside)
  | (.ok .ended, s') =>
    (∃ seen, LastAsked noted s'.outside seen ∧ yielded = newer since seen) ∧
      noted s'.outside = noted s.outside
  | (.error _, _) => False

/-- A page goes on where the entries before it end. -/
theorem append_page_start {seen before page : List Change} (hascending : Ascending seen)
    (hbefore : before <+: newer since seen)
    (hpage : page = (newer (lastCid since before) seen).take size) :
    before ++ page <+: newer since seen := by
  rw [newer_eq_append hascending hbefore, hpage, List.prefix_append_right_inj]
  exact List.take_prefix ..

/-- Nothing of the log has been missed. -/
theorem Stands.start_newer {w : σ} (h : Stands log noted since size w yielded place) :
    yielded <+: newer since (log w) := by
  cases h with
  | request hyielded => exact hyielded
  | @deliver seen before left page hasked hascending hseen hbefore hpage hsplit =>
    have hall : yielded ++ left <+: newer since seen :=
      hsplit ▸ append_page_start hascending hbefore hpage
    exact ((List.prefix_append ..).trans hall).trans (newer_mono hseen)

section Serving

variable (hsize : 1 ≤ size)
  (hserver : ServesChanges c.host (address c.config.baseUrl model size) size log noted)
  (hheaders : c.HasHeaders)

include hsize hserver hheaders

theorem Stands.goesOn (h : Stands log noted since size s.outside yielded place) :
    GoesOn log noted since (address c.config.baseUrl model size) size s yielded
      ((sized model size).step c place s) := by
  cases h with
  | request hyielded =>
    obtain ⟨seen, page, s', hpage, hstep, hnoted, hascending, hbefore, hafter⟩ :=
      step_request hserver hheaders (lastCid since yielded) s
    rw [hstep]
    refine ⟨?_, .inr ⟨seen, hnoted⟩⟩
    exact .deliver ⟨_, _, hnoted⟩ hascending hafter (hyielded.trans (newer_mono hbefore)) hpage
      rfl
  | @deliver seen before left page hasked hascending hseen hbefore hpage hsplit =>
    cases left with
    | cons change left =>
      refine ⟨?_, rfl⟩
      refine .deliver hasked hascending hseen hbefore hpage ?_
      rw [← hsplit, List.append_assoc]
      rfl
    | nil =>
      have hall : before ++ page <+: newer since seen :=
        append_page_start hascending hbefore hpage
      rw [List.append_nil] at hsplit
      by_cases hshort : page.length < size
      · -- a page that is not full reached the end of the log
        rw [step_short c model hshort]
        refine ⟨⟨seen, hasked, ?_⟩, rfl⟩
        have hwhole : page = newer (lastCid since before) seen := by
          rw [hpage, List.length_take] at hshort
          rw [hpage, List.take_of_length_le (by omega)]
        rw [hsplit, newer_eq_append hascending hbefore, ← hwhole]
      · obtain ⟨last, hlast, hstep⟩ := step_full c model hsize hshort s
        rw [hstep]
        refine ⟨?_, .inl rfl⟩
        have hcid : last.cid = lastCid since yielded := by rw [hsplit, lastCid_append hlast]
        show Stands log noted since size s.outside yielded (.request (.int last.cid))
        rw [hcid]
        refine .request (List.IsPrefix.trans ?_ (newer_mono hseen))
        rwa [hsplit]

/-! ## A whole walk -/

/-- The walk stands well wherever it gets. -/
theorem stands_of_reaches
    (h : Reaches ((sized model size).step c) (.request (.int since)) s₀ yielded place s) :
    Stands log noted since size s.outside yielded place := by
  induction h with
  | start => exact .request List.nil_prefix
  | moved _ hstep ih =>
    have hon := ih.goesOn hsize hserver hheaders
    rw [hstep] at hon
    exact hon.1
  | item _ hstep ih =>
    have hon := ih.goesOn hsize hserver hheaders
    rw [hstep] at hon
    exact hon.1

/-- A walk over a log that stays within bounds comes to its end: each full page brings it
nearer to what it can yield at all. -/
theorem exists_end {final : List Change}
    (hfinal : ∀ yielded place s, Reaches ((sized model size).step c) (.request (.int since)) s₀
      yielded place s → log s.outside <+: final)
    {last : Int} (room : Nat)
    (h : Reaches ((sized model size).step c) (.request (.int since)) s₀ yielded
      (.request (.int last)) s)
    (hroom : (newer since final).length ≤ yielded.length + room) :
    ∃ yielded place s s', Reaches ((sized model size).step c) (.request (.int since)) s₀ yielded
      place s ∧ (sized model size).step c place s = (.ok .ended, s') := by
  -- on the number of entries that can still be yielded
  induction room using Nat.strongRecOn generalizing yielded last s with
  | ind room ih =>
    obtain ⟨seen, page, s', -, hstep, -⟩ := step_request hserver hheaders last s
    have hend := reaches_page_end (h.moved hstep)
    by_cases hshort : page.length < size
    · exact ⟨_, _, s', s', hend, step_short c model hshort s'⟩
    · obtain ⟨entry, -, hfull⟩ := step_full c model hsize hshort s'
      have hyielded : (yielded ++ page).length ≤ (newer since final).length := by
        have hstands := stands_of_reaches hsize hserver hheaders hend
        exact (hstands.start_newer.trans (newer_mono (hfinal _ _ _ hend))).length_le
      have hlonger : (yielded ++ page).length = yielded.length + page.length :=
        List.length_append
      exact ih (room - 1) (by omega) (hend.moved hfull) (by omega)

end Serving

/-- **A walk over a growing log loses and repeats nothing.** What it has yielded is at every
moment the start of the entries after its number, in ascending order; no step fails, and each
request asks for what comes after the last entry yielded. A step that ends the walk finds all
entries yielded that the log had at the last request, and a log that stays within bounds is
walked to such an end. -/
theorem yields_every_change_once (c : Client σ) (model : String) {size : Nat} (hsize : 1 ≤ size)
    (log : σ → List Change) (noted : σ → List (String × List Change))
    (hserver : ServesChanges c.host (address c.config.baseUrl model size) size log noted)
    (hheaders : c.HasHeaders) (since : Int) (s₀ : Session σ) :
    (∀ yielded place s,
      Reaches ((sized model size).step c) (.request (.int since)) s₀ yielded place s →
      yielded <+: newer since (log s.outside) ∧ Ascending yielded ∧
        ∃ progress s', (sized model size).step c place s = (.ok progress, s') ∧
          (noted s'.outside = noted s.outside ∨
            ∃ seen, noted s'.outside =
              (address c.config.baseUrl model size (lastCid since yielded), seen) ::
                noted s.outside) ∧
          (progress = .ended →
            ∃ seen, LastAsked noted s'.outside seen ∧ yielded = newer since seen)) ∧
      ((∃ final, ∀ yielded place s,
          Reaches ((sized model size).step c) (.request (.int since)) s₀ yielded place s →
          log s.outside <+: final) →
        ∃ yielded s', Pulls ((sized model size).step c) none (.request (.int since)) s₀
            (⟨yielded, .ended, none⟩, s') ∧
          ∃ seen, LastAsked noted s'.outside seen ∧ yielded = newer since seen) := by
  constructor
  · intro yielded place s hreaches
    have hstands := stands_of_reaches hsize hserver hheaders hreaches
    have hon := hstands.goesOn hsize hserver hheaders
    refine ⟨hstands.start_newer,
      ((hserver.ascending _).newer since).of_start hstands.start_newer, ?_⟩
    generalize (sized model size).step c place s = r at hon
    obtain ⟨outcome, s'⟩ := r
    cases outcome with
    | error f => exact hon.elim
    | ok progress =>
      refine ⟨progress, s', rfl, ?_⟩
      cases progress with
      | item a next => exact ⟨.inl hon.2, fun h => by cases h⟩
      | moved next => exact ⟨hon.2, fun h => by cases h⟩
      | ended => exact ⟨.inl hon.2, fun _ => hon.1⟩
  · rintro ⟨final, hfinal⟩
    obtain ⟨yielded, place, s, s', hreaches, hend⟩ :=
      exists_end hsize hserver hheaders hfinal (newer since final).length .start (by simp)
    refine ⟨yielded, s', hreaches.pulls_ended hend, ?_⟩
    have hon := (stands_of_reaches hsize hserver hheaders hreaches).goesOn hsize hserver hheaders
    rw [hend] at hon
    exact hon.1

/-! ## A log that grows during a walk -/

open Service

/-- A log with one entry, and with a second one after the first request. -/
def growingLog (requests : Nat) : List Change :=
  if requests = 0 then [numbered 1] else [numbered 1, numbered 2]

/-- The number that a text spells. -/
def spelledNumber : List Char → Int
  | '-' :: digits => -Nat.ofDigitChars 10 digits 0
  | digits => Nat.ofDigitChars 10 digits 0

theorem spelledNumber_intText (n : Int) : spelledNumber (Value.intText n) = n := by
  have hvalue : Nat.ofDigitChars 10 (Text.digits n.natAbs) 0 = n.natAbs :=
    Nat.ofDigitChars_ten_toDigits
  by_cases hn : n < 0
  · rw [Value.intText, if_pos hn, spelledNumber, hvalue]
    omega
  · have hdash : ∀ rest, Text.digits n.natAbs ≠ '-' :: rest := by
      intro rest hrest
      have hmem : '-' ∈ Nat.toDigits 10 n.natAbs := by
        show '-' ∈ Text.digits n.natAbs
        simp [hrest]
      have hdigit := Nat.isDigit_of_mem_toDigits (by decide) (by decide) hmem
      exact absurd hdigit (by decide)
    rw [Value.intText, if_neg hn, spelledNumber, hvalue]
    · omega
    · exact hdash

/-- The number after which an address of the model asks for changes. -/
def numberIn (url : String) : Int :=
  let number := url.toList.drop "https://test.api/m/:changes/".toList.length
  spelledNumber (number.take (number.length - "?limit(1)".toList.length))

theorem numberIn_address (since : Int) :
    numberIn (address "https://test.api" "m" 1 since) = since := by
  have hurl : (address "https://test.api" "m" 1 since).toList =
      "https://test.api/m/:changes/".toList ++ (Value.intText since ++ "?limit(1)".toList) := by
    rw [address, ← Value.toString_int]
    simp
    rfl
  have hlength : (Value.intText since ++ "?limit(1)".toList).length -
      "?limit(1)".toList.length = (Value.intText since).length := by
    rw [List.length_append, Nat.add_sub_cancel]
  rw [numberIn, hurl, List.drop_left, hlength, List.take_left, spelledNumber_intText]

/-- The page of the first change after a number in the log that grows. -/
def growingPage (requests : Nat) (since : Int) : Reply :=
  if since < 1 then numberPage "1"
  else if since < 2 ∧ requests ≠ 0 then numberPage "2"
  else page "\x7b\"_data\":[]\x7d"

theorem readReply_growingPage (requests : Nat) (since : Int) :
    (readReply (growingPage requests since) >>= changesIn) =
      .ok ((newer since (growingLog requests)).take 1) := by
  have htwo : (readReply (numberPage "2") >>= changesIn) = .ok [numbered 2] :=
    readReply_numberPage rfl rfl rfl
  have hnone : (readReply (page "\x7b\"_data\":[]\x7d") >>= changesIn) = .ok [] :=
    readReply_emptyPage
  by_cases hfirst : since < 1
  · have hboth : since < 2 := by omega
    rw [growingPage, if_pos hfirst, readReply_numberPage_one, growingLog]
    split <;> simp [newer, numbered, hfirst, hboth]
  · by_cases hsecond : since < 2 ∧ requests ≠ 0
    · rw [growingPage, if_neg hfirst, if_pos hsecond, htwo, growingLog, if_neg hsecond.2]
      simp [newer, numbered, hfirst, hsecond.1]
    · rw [growingPage, if_neg hfirst, if_neg hsecond, hnone, growingLog]
      split
      · simp [newer, numbered, hfirst]
      · have hlate : ¬since < 2 := fun h => hsecond ⟨h, by assumption⟩
        simp [newer, numbered, hfirst, hlate]

/-- A service that adds the second entry when the first request has been answered. -/
def growingHost : Host Nat :=
  Host.answering fun r requests => (growingPage requests (numberIn r.url), requests + 1)

/-- A client of that service, with notes of its requests and of the log then. -/
def growing : Client (Noted Nat (String × List Change)) :=
  plain "https://test.api" (growingHost.noting fun r requests => (r.url, growingLog requests))

theorem growingLog_start (requests : Nat) : growingLog requests <+: [numbered 1, numbered 2] := by
  rw [growingLog]
  split <;> simp

theorem growing_serves :
    ServesChanges growing.host (address growing.config.baseUrl "m" 1) 1
      (fun w => growingLog w.world) Noted.notes where
  ascending w := by
    refine Ascending.of_start ?_ (growingLog_start w.world)
    simp [Ascending, numbered]
  notes := growingHost.notes_noting fun r requests => (r.url, growingLog requests)
  grows := by
    have hgrows : growingHost.Keeps fun n n' => growingLog n <+: growingLog n' :=
      Host.keeps_answering _ (fun _ => List.prefix_rfl) List.IsPrefix.trans
    exact hgrows.noting fun r requests => (r.url, growingLog requests)
  grows_asked r w := by
    show growingLog w.world <+: [numbered 1, numbered 2]
    exact growingLog_start w.world
  answers since r w hurl := by
    show (readReply (growingPage w.world (numberIn r.url)) >>= changesIn) = _
    rw [hurl]
    show (readReply (growingPage w.world
      (numberIn (address "https://test.api" "m" 1 since))) >>= changesIn) = _
    rw [numberIn_address, readReply_growingPage]

/-- A walk over the log that grows comes to an end. -/
theorem growing_yields_every_change_once :
    1 ≤ 1 ∧ growing.HasHeaders ∧
      ServesChanges growing.host (address growing.config.baseUrl "m" 1) 1
        (fun w => growingLog w.world) Noted.notes ∧
      (∃ final, ∀ yielded place s,
        Reaches ((sized "m" 1).step growing) (.request (.int 0)) ⟨⟨0, []⟩, none⟩ yielded place s →
        growingLog s.outside.world <+: final) ∧
      ∃ yielded s', Pulls ((sized "m" 1).step growing) none (.request (.int 0)) ⟨⟨0, []⟩, none⟩
          (⟨yielded, .ended, none⟩, s') ∧
        ∃ seen, LastAsked Noted.notes s'.outside seen ∧ yielded = newer 0 seen := by
  have hheaders : growing.HasHeaders := hasHeaders_of_open rfl
  have hfinal : ∃ final, ∀ yielded place s,
      Reaches ((sized "m" 1).step growing) (.request (.int 0)) ⟨⟨0, []⟩, none⟩ yielded place s →
      growingLog s.outside.world <+: final :=
    ⟨[numbered 1, numbered 2], fun _ _ s _ => growingLog_start s.outside.world⟩
  have hwalk := yields_every_change_once growing "m" (by decide) (fun w => growingLog w.world)
    Noted.notes growing_serves hheaders 0 ⟨⟨0, []⟩, none⟩
  exact ⟨by decide, hheaders, growing_serves, hfinal, hwalk.2 hfinal⟩

end ChangeWalk
end DataPortal
