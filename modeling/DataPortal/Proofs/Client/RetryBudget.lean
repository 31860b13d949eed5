import DataPortal.Proofs.Client.Reaching
import DataPortal.Proofs.Client.Requests
import DataPortal.Proofs.Client.Retrying
import DataPortal.Proofs.Client.Trace
/-!
# The retry budget

A walk with retries sends a page as often as its policy lets it, and sends it again only after the
service asked it to slow down. What it has done is, at every moment, told by the pages that it has
left behind and by the attempts for the page at which it is (`Stands`), and so is how it ends
(`Ends`).
-/
namespace DataPortal

namespace PageWalk

open Service Walk

/-- The number of requests for data. -/
def requestsIn (deeds : List Deed) : Nat :=
  deeds.countP Deed.asksData

/-- A page is sent and refused some times, with a wait after each. -/
def refusedTries (p : Schedule) (r : Request) (refusals : List Reply) : List Deed :=
  (refusals.zipIdx 1).flatMap fun (reply, retry) =>
    [.asked r reply, .waited (p.waitSeconds retry)]

theorem refusedTries_concat (p : Schedule) (r : Request) (refusals : List Reply) (reply : Reply) :
    refusedTries p r (refusals ++ [reply]) =
      refusedTries p r refusals ++
        [.asked r reply, .waited (p.waitSeconds (refusals.length + 1))] := by
  simp [refusedTries, List.zipIdx_append, Nat.add_comm]

/-- Refusals of a page, which leave an attempt. -/
structure Refused (p : Schedule) (noRetry : Bool) (refusals : List Reply) : Prop where
  refused : ∀ reply ∈ refusals, isRefusal reply = true
  few : (refusals.length : Int) < p.mostSends noRetry

/-- What a walk has done for the pages that it has left behind, and the cursor of the next one. Each
page was refused some times, and then answered with a page that names another one. -/
inductive Passes (p : Schedule) (noRetry : Bool) (request : Option Value → Request) :
    List Deed → Option Value → Prop
  | start : Passes p noRetry request [] none
  | page {deeds : List Deed} {cursor : Option Value} {refusals : List Reply} {answer : Reply}
      {page next : Value} : Passes p noRetry request deeds cursor → Refused p noRetry refusals →
      Client.readReply answer = .ok page → nextCursor page = .ok (some next) →
      Passes p noRetry request
        (deeds ++ refusedTries p (request cursor) refusals ++ [.asked (request cursor) answer])
        (some next)

/-- The same, with the attempts for the page of the cursor that were refused. -/
def Tries (p : Schedule) (noRetry : Bool) (request : Option Value → Request) (deeds : List Deed)
    (cursor : Option Value) (refusals : List Reply) : Prop :=
  ∃ before, Passes p noRetry request before cursor ∧ Refused p noRetry refusals ∧
    deeds = before ++ refusedTries p (request cursor) refusals

/-- How a walk stands after some steps, with what it has done and yielded. Each step sends a page,
yields a record, or goes on from the end of a page. -/
inductive Stands (p : Schedule) (noRetry : Bool) (request : Option Value → Request)
    (base : List Char) (steps : Nat) (items : List Value) : List Deed → Place → Prop
  | unstarted : steps = 0 → items = [] → Stands p noRetry request base steps items [] .unstarted
  | request {deeds : List Deed} {cursor : Option Value} {refusals : List Reply} :
      Tries p noRetry request deeds cursor refusals →
      steps ≤ 2 * requestsIn deeds + items.length + 1 →
      Stands p noRetry request base steps items deeds
        (.request base cursor items.length refusals.length)
  | deliver {deeds : List Deed} {cursor : Option Value} {refusals : List Reply} {answer : Reply}
      {left : List Value} {page : Value} : Tries p noRetry request deeds cursor refusals →
      Client.readReply answer = .ok page →
      steps ≤ 2 * (requestsIn deeds + 1) + items.length →
      Stands p noRetry request base steps items (deeds ++ [.asked (request cursor) answer])
        (.deliver base left page items.length)

/-- An answer with a failure in it: that of the answer, or of reading it as a page. -/
def FailsWith (answer : Reply) (f : Failure) : Prop :=
  Client.readReply answer = .error f ∨ ∃ page, Client.readReply answer = .ok page ∧
    (Client.pageRecords page = .error f ∨ nextCursor page = .error f)

/-- How a walk ends, with what it has done and yielded. -/
inductive Ends (p : Schedule) (noRetry : Bool) (request : Option Value → Request)
    (items : List Value) : List Deed → Ending → Prop
  /-- The last page names no other one. -/
  | ended {deeds : List Deed} {cursor : Option Value} {refusals : List Reply} {answer : Reply}
      {page : Value} : Tries p noRetry request deeds cursor refusals →
      Client.readReply answer = .ok page → nextCursor page = .ok none →
      Ends p noRetry request items (deeds ++ [.asked (request cursor) answer]) .ended
  /-- An answer that is no refusal has a failure in it. -/
  | failed {deeds : List Deed} {cursor : Option Value} {refusals : List Reply} {answer : Reply}
      {f : Failure} : Tries p noRetry request deeds cursor refusals → isRefusal answer = false →
      FailsWith answer f →
      Ends p noRetry request items (deeds ++ [.asked (request cursor) answer]) (.failed f)
  /-- The last attempt is refused. -/
  | gaveUp {deeds : List Deed} {cursor : Option Value} {refusals : List Reply} {r : Response}
      {body : Value} : Tries p noRetry request deeds cursor refusals → Refuses r body →
      (refusals.length + 1 : Nat) = p.mostSends noRetry →
      Ends p noRetry request items (deeds ++ [.asked (request cursor) (.answered r)])
        (.failed (.reported (.rateLimit
          ("Rate limited after " ++ toString items.length ++ " records fetched") body
          items.length (refusals.length + 1 : Nat))))
  /-- An earlier one is refused, and the wait after it is beyond the range of floating point. -/
  | overflowed {deeds : List Deed} {cursor : Option Value} {refusals : List Reply} {r : Response}
      {body : Value} {negative : Bool} :
      Tries p noRetry request deeds cursor refusals → Refuses r body →
      (refusals.length + 1 : Nat) < p.mostSends noRetry →
      p.waitSeconds (refusals.length + 1) = .infinite negative →
      Ends p noRetry request items (deeds ++ [.asked (request cursor) (.answered r)])
        (.failed .overflow)

/-- What a run has done and yielded when it stops: it stands somewhere, with enough yielded or with
its steps spent by what it has done, or it has ended. -/
inductive Accounts (p : Schedule) (noRetry : Bool) (request : Option Value → Request)
    (base : List Char) (budget : Nat) (items : List Value) (deeds : List Deed) : Ending → Prop
  | enough {steps : Nat} {place : Place} :
      Stands p noRetry request base steps items deeds place →
      Accounts p noRetry request base budget items deeds .enough
  | spent {place : Place} : Stands p noRetry request base budget items deeds place →
      budget ≤ 2 * requestsIn deeds + items.length + 1 →
      Accounts p noRetry request base budget items deeds (.failed .budgetSpent)
  | over {ending : Ending} : Ends p noRetry request items deeds ending →
      Accounts p noRetry request base budget items deeds ending

/-- What a step leads to, so that the walk stands there, or ends, with what it has done then. -/
def Leads (p : Schedule) (noRetry : Bool) (request : Option Value → Request) (base : List Char)
    (steps : Nat) (items : List Value) (deeds : List Deed) :
    Except Failure (Progress Place Value) → Prop
  | .ok (.item a next) => Stands p noRetry request base steps (items ++ [a]) deeds next
  | .ok (.moved next) => Stands p noRetry request base steps items deeds next
  | .ok .ended => Ends p noRetry request items deeds .ended
  | .error f => Ends p noRetry request items deeds (.failed f)

variable {p : Schedule} {noRetry : Bool} {request : Option Value → Request} {base : List Char}
  {steps : Nat} {items : List Value} {deeds : List Deed} {cursor : Option Value}
  {refusals : List Reply} {place : Place}

theorem Refused.concat (h : Refused p noRetry refusals) {reply : Reply}
    (hreply : isRefusal reply = true)
    (hfew : (refusals.length + 1 : Nat) < p.mostSends noRetry) :
    Refused p noRetry (refusals ++ [reply]) where
  refused r hr := by
    rcases List.mem_append.1 hr with hr | hr
    · exact h.refused r hr
    · rw [List.mem_singleton.1 hr]
      exact hreply
  few := by simpa using hfew

/-- One more attempt is refused, and waited after. -/
theorem Tries.concat (h : Tries p noRetry request deeds cursor refusals) {reply : Reply}
    (hreply : isRefusal reply = true)
    (hfew : (refusals.length + 1 : Nat) < p.mostSends noRetry) :
    Tries p noRetry request
      (deeds ++ [.asked (request cursor) reply, .waited (p.waitSeconds (refusals.length + 1))])
      cursor (refusals ++ [reply]) := by
  obtain ⟨before, hpasses, hrefused, rfl⟩ := h
  refine ⟨before, hpasses, hrefused.concat hreply hfew, ?_⟩
  rw [refusedTries_concat, List.append_assoc]

theorem Passes.tries (h : Passes p noRetry request deeds cursor) :
    Tries p noRetry request deeds cursor [] := by
  refine ⟨deeds, h, ⟨by simp, ?_⟩, by simp [refusedTries]⟩
  have := p.one_le_mostSends noRetry
  rw [List.length_nil]
  omega

theorem Tries.few (h : Tries p noRetry request deeds cursor refusals) :
    (refusals.length : Int) < p.mostSends noRetry := by
  obtain ⟨before, hpasses, hrefused, rfl⟩ := h
  exact hrefused.few

/-- A page that is answered, and names another one, is left behind. -/
theorem Tries.passes (h : Tries p noRetry request deeds cursor refusals) {answer : Reply}
    {page next : Value} (hread : Client.readReply answer = .ok page)
    (hnext : nextCursor page = .ok (some next)) :
    Passes p noRetry request (deeds ++ [.asked (request cursor) answer]) (some next) := by
  obtain ⟨before, hpasses, hrefused, rfl⟩ := h
  exact .page hpasses hrefused hread hnext

theorem requestsIn_asked (deeds : List Deed) (r : Request) (reply : Reply) :
    requestsIn (deeds ++ [.asked r reply]) = requestsIn deeds + 1 := by
  simp [requestsIn, Deed.asksData]

theorem requestsIn_refused (deeds : List Deed) (r : Request) (reply : Reply) (x : Binary64) :
    requestsIn (deeds ++ [.asked r reply, .waited x]) = requestsIn deeds + 1 := by
  simp [requestsIn, Deed.asksData, List.countP_cons]

theorem Stands.steps_le (h : Stands p noRetry request base steps items deeds place) :
    steps ≤ 2 * requestsIn deeds + items.length + 1 := by
  cases h with
  | unstarted hsteps _ => omega
  | request _ hsteps => exact hsteps
  | deliver _ _ hsteps =>
    rw [requestsIn_asked]
    omega

/-! ## One step -/

/-- An answer that is no refusal is delivered or ends the walk. -/
theorem Tries.leads_answer (h : Tries p noRetry request deeds cursor refusals)
    (hsteps : steps ≤ 2 * requestsIn deeds + items.length + 1) {reply : Reply}
    (hanswered : isRefusal reply = false) :
    Leads p noRetry request base (steps + 1) items (deeds ++ [.asked (request cursor) reply])
      (landing base items.length reply) := by
  cases hread : Client.readReply reply with
  | error f =>
    rw [landing, hread]
    exact .failed h hanswered (.inl hread)
  | ok page =>
    cases hrecords : Client.pageRecords page with
    | error f =>
      simp only [landing, hread, hrecords, bind, Except.bind]
      exact .failed h hanswered (.inr ⟨page, hread, .inl hrecords⟩)
    | ok records =>
      simp only [landing, hread, hrecords, bind, Except.bind]
      exact .deliver h hread (by omega)

section Traced

variable {σ : Type} {c : Client σ} {w : PageWalk} {trace : σ → List Deed} {start : List Deed}
  {s s₀ : Session σ}

section Retrying

variable (hopen : c.credentials = none) (htraced : c.host.Traces trace)
  (hretry : w.retry = some (p.policyWith noRetry))

include hopen htraced hretry

/-- The page is sent once more. -/
theorem Tries.leads (htrace : trace s.outside = start ++ deeds)
    (h : Tries p noRetry (pageRequest c.config w.path base) deeds cursor refusals)
    (hsteps : steps ≤ 2 * requestsIn deeds + items.length + 1) :
    ∃ deeds, trace (w.request c base cursor items.length refusals.length s).2.outside =
        start ++ deeds ∧
      Leads p noRetry (pageRequest c.config w.path base) base (steps + 1) items deeds
        (w.request c base cursor items.length refusals.length s).1 := by
  obtain ⟨reply, world, hget⟩ : ∃ reply world,
      c.host.get (pageRequest c.config w.path base cursor) s.outside = (reply, world) :=
    ⟨_, _, rfl⟩
  have hasked := htraced.get (pageRequest c.config w.path base cursor) s.outside
  rw [hget, htrace, List.append_assoc] at hasked
  by_cases hanswered : isRefusal reply = false
  · rw [request_of_answer hopen hget (.inr hanswered)]
    exact ⟨_, hasked, h.leads_answer hsteps hanswered⟩
  · have hrefusal : isRefusal reply = true := by simpa using hanswered
    obtain ⟨r, body, rfl, hrefuses⟩ := exists_of_isRefusal hrefusal
    rw [request_of_refusal hopen hget hretry hrefuses]
    rcases p.slowDown_cases h.few body items.length with
      ⟨hlast, hslow⟩ | ⟨hleft, ⟨⟨negative, hwait⟩, hslow⟩ | hslow⟩
    · rw [hslow]
      exact ⟨_, hasked, .gaveUp h hrefuses hlast⟩
    · rw [hslow]
      exact ⟨_, hasked, .overflowed h hrefuses hleft hwait⟩
    · rw [hslow]
      refine ⟨deeds ++ [.asked (pageRequest c.config w.path base cursor) (.answered r),
        .waited (p.waitSeconds (refusals.length + 1))], ?_, ?_⟩
      · show trace (c.host.sleep _ world) = _
        rw [htraced.sleep, hasked]
        simp
      · have hlength : (refusals ++ [Reply.answered r]).length = refusals.length + 1 := by simp
        have hagain : Stands p noRetry (pageRequest c.config w.path base) base (steps + 1) items _
            (.request base cursor items.length (refusals ++ [Reply.answered r]).length) :=
          .request (h.concat hrefusal hleft) (by rw [requestsIn_refused]; omega)
        rwa [hlength] at hagain

/-- A walk that stands somewhere goes on from there by one step. -/
theorem Stands.leads (hbase : w.baseQuery = .ok base) (htrace : trace s.outside = start ++ deeds)
    (h : Stands p noRetry (pageRequest c.config w.path base) base steps items deeds place) :
    ∃ deeds, trace (w.step c place s).2.outside = start ++ deeds ∧
      Leads p noRetry (pageRequest c.config w.path base) base (steps + 1) items deeds
        (w.step c place s).1 := by
  cases h with
  | unstarted hsteps hitems =>
    subst hitems
    rw [step_unstarted, hbase]
    exact ⟨_, htrace, .request Passes.start.tries (by omega)⟩
  | request htries hsteps => exact htries.leads hopen htraced hretry htrace hsteps
  | @deliver deeds cursor refusals answer left page htries hread hsteps =>
    cases left with
    | cons record left =>
      have hlength : (items ++ [record]).length = items.length + 1 := by simp
      have hdelivered : Stands p noRetry (pageRequest c.config w.path base) base (steps + 1)
          (items ++ [record])
          (deeds ++ [.asked (pageRequest c.config w.path base cursor) answer])
          (.deliver base left page (items ++ [record]).length) :=
        .deliver htries hread (by omega)
      rw [hlength] at hdelivered
      exact ⟨_, htrace, hdelivered⟩
    | nil =>
      rw [step_delivered]
      refine ⟨_, htrace, ?_⟩
      have hanswered : isRefusal answer = false := isRefusal_of_readReply hread
      cases hnext : nextCursor page with
      | error f => exact .failed htries hanswered (.inr ⟨page, hread, .inr hnext⟩)
      | ok next =>
        cases next with
        | none => exact .ended htries hread hnext
        | some next =>
          refine .request (htries.passes hread hnext).tries ?_
          rw [requestsIn_asked]
          omega

/-! ## Runs -/

/-- The walk stands wherever it gets, with what it has done and yielded until then. -/
theorem keeps_stands (hbase : w.baseQuery = .ok base) (start : List Deed) :
    Keeps (w.step c) fun steps items place s => ∃ deeds, trace s.outside = start ++ deeds ∧
      Stands p noRetry (pageRequest c.config w.path base) base steps items deeds place where
  moved := by
    rintro steps items place next s s' ⟨deeds, htrace, hstands⟩ hstep
    have hleads := hstands.leads hopen htraced hretry hbase htrace
    rwa [hstep] at hleads
  item := by
    rintro steps items place next s s' a ⟨deeds, htrace, hstands⟩ hstep
    have hleads := hstands.leads hopen htraced hretry hbase htrace
    rwa [hstep] at hleads

theorem exists_accounts (hbase : w.baseQuery = .ok base) (budget : Nat) (wanted : Option Nat)
    (s : Session σ) :
    ∃ deeds, trace (pull (w.step c) budget wanted .unstarted s).2.outside =
        trace s.outside ++ deeds ∧
      Accounts p noRetry (pageRequest c.config w.path base) base budget
        (pull (w.step c) budget wanted .unstarted s).1.items deeds
        (pull (w.step c) budget wanted .unstarted s).1.ending := by
  have hkeeps := keeps_stands hopen htraced hretry hbase (trace s.outside)
  have hstops := hkeeps.stops ⟨[], (List.append_nil _).symm, .unstarted rfl rfl⟩ budget wanted
  rw [Nat.zero_add, List.nil_append] at hstops
  generalize pull (w.step c) budget wanted .unstarted s = run at hstops
  obtain ⟨⟨items, ending, last⟩, s'⟩ := run
  dsimp only at hstops ⊢
  cases hstops with
  | enough hholds =>
    obtain ⟨deeds, htrace, hstands⟩ := hholds
    exact ⟨deeds, htrace, .enough hstands⟩
  | spent hholds =>
    obtain ⟨deeds, htrace, hstands⟩ := hholds
    exact ⟨deeds, htrace, .spent hstands hstands.steps_le⟩
  | ended hholds hstep =>
    obtain ⟨deeds, htrace, hstands⟩ := hholds
    obtain ⟨deeds, htrace, hleads⟩ := hstands.leads hopen htraced hretry hbase htrace
    rw [hstep] at htrace hleads
    exact ⟨deeds, htrace, .over hleads⟩
  | failed hholds hstep =>
    obtain ⟨deeds, htrace, hstands⟩ := hholds
    obtain ⟨deeds, htrace, hleads⟩ := hstands.leads hopen htraced hretry hbase htrace
    rw [hstep] at htrace hleads
    exact ⟨deeds, htrace, .over hleads⟩

end Retrying

/-- A walk whose query has no text stops before its first request. -/
theorem pull_of_no_query {f : Failure} (hbase : w.baseQuery = .error f) (budget : Nat)
    (wanted : Option Nat) (s : Session σ) :
    ∃ ending place, pull (w.step c) budget wanted .unstarted s = (⟨[], ending, place⟩, s) := by
  cases budget with
  | zero =>
    match wanted with
    | none => exact ⟨_, _, rfl⟩
    | some 0 => exact ⟨_, _, rfl⟩
    | some (n + 1) => exact ⟨_, _, rfl⟩
  | succ budget =>
    by_cases hwanted : wanted = some 0
    · subst hwanted
      exact ⟨_, _, rfl⟩
    · rw [pull_succ hwanted, step_unstarted, hbase]
      exact ⟨_, _, rfl⟩

/-- **The retry budget is exact.** Whatever stops a walk with retries, in a world where anything may
answer: each page was sent again only after a refusal, with one wait between, and no more often than
its attempts allow, or once without retries. Any other failure of a page ended the walk with that
failure. Where the last attempt was refused, the failure tells the number of records yielded so far,
how often the page was sent, which is as often as it may be, and the body of the last refusal; there
was one wait less, and none after that refusal. Only a wait beyond the range of floating point ends
a walk before that, and the steps of a budget are spent on nothing but requests and records. -/
theorem retry_budget_is_exact (c : Client σ) (hopen : c.credentials = none)
    (trace : σ → List Deed) (htraced : c.host.Traces trace) (model : String) (q : Option Query)
    (options : Option RetryPolicy) (p : Schedule) (noRetry : Bool)
    (hp : options.getD c.config.retry = p.policyWith noRetry) (budget : Nat) (wanted : Option Nat)
    (s₀ : Session σ) :
    let w := c.streamWithRetry model q options
    let run := pull (w.step c) budget wanted .unstarted s₀
    match w.baseQuery with
    | .error _ => run.1.items = [] ∧ run.2 = s₀
    | .ok base =>
      ∃ deeds, trace run.2.outside = trace s₀.outside ++ deeds ∧
        Accounts p noRetry (pageRequest c.config w.path base) base budget run.1.items deeds
          run.1.ending := by
  intro w run
  have hretry : w.retry = some (p.policyWith noRetry) := congrArg some hp
  cases hbase : w.baseQuery with
  | error f =>
    obtain ⟨ending, place, hpull⟩ := pull_of_no_query (c := c) hbase budget wanted s₀
    have hrun : run = (⟨[], ending, place⟩, s₀) := hpull
    rw [hrun]
    exact ⟨rfl, rfl⟩
  | ok base => exact exists_accounts hopen htraced hretry hbase budget wanted s₀

end Traced

/-! ## A page that is given up -/

open Replay

/-- A client without credentials whose script is traced. -/
def watched : Client (Traced Tape) :=
  Client.plain "https://test.api" host.tracing

/-- A script of three refusals. -/
def threeRefusals : Session (Traced Tape) :=
  ⟨⟨⟨[], [refusal, refusal, refusal], [], 0, []⟩, []⟩, none⟩

/-- The third refusal is the last one, where three attempts are allowed. -/
theorem third_refusal_is_last :
    watched.credentials = none ∧ watched.host.Traces Traced.deeds ∧
      (some (quick.policyWith false)).getD watched.config.retry = quick.policyWith false ∧
      ∃ run deeds,
        pull ((watched.streamWithRetry "m" none (some (quick.policyWith false))).step watched) 10
          none .unstarted threeRefusals = run ∧
        run.1.ending = .failed (.reported
          (.rateLimit "Rate limited after 0 records fetched" .null 0 3)) ∧
        run.2.outside.deeds = deeds ∧
        Accounts quick false (pageRequest watched.config "/m" "?limit(100)".toList)
          "?limit(100)".toList 10 run.1.items deeds run.1.ending := by
  have htraced : watched.host.Traces Traced.deeds := Host.traces_tracing _
  obtain ⟨deeds, htrace, haccounts⟩ := retry_budget_is_exact watched rfl Traced.deeds htraced "m"
    none (some (quick.policyWith false)) quick false rfl 10 none threeRefusals
  exact ⟨rfl, htraced, rfl, _, deeds, rfl, rfl, htrace, haccounts⟩

end PageWalk

end DataPortal
