import DataPortal.Proofs.Client.Retrying
import DataPortal.Proofs.Service.Reading
/-!
# Collecting from a walk that breaks

What a walk delivered before it broke is not lost where the library reports the break: it comes
with the report. It is lost where anything else broke the walk, be it a connection or an answer
that is no JSON.
-/
namespace DataPortal

namespace Walk

variable {σ ρ α : Type} {step : ρ → Action σ (Progress ρ α)} {place : ρ} {s s' : Session σ}

/-- A number of wanted items that is not reached makes no difference. -/
theorem pull_of_lt {budget n : Nat} (h : (pull step budget none place s).1.items.length < n) :
    pull step budget (some n) place s = pull step budget none place s := by
  induction budget generalizing n place s with
  | zero =>
    cases n with
    | zero => simp at h
    | succ n => rfl
  | succ budget ih =>
    have hwanted : some n ≠ some 0 := by
      rintro hn
      cases hn
      simp at h
    rw [pull_succ (by simp)] at h
    rw [pull_succ hwanted, pull_succ (by simp)]
    cases hstep : step place s with
    | mk progress s' =>
      rw [hstep] at h
      cases progress with
      | error f => rfl
      | ok progress =>
        cases progress with
        | ended => rfl
        | moved next => exact ih h
        | item a next =>
          have hrest : (pull step budget none next s').1.items.length < n - 1 := by
            simp only [Pulled.cons, Option.map_none, List.length_cons] at h
            omega
          simp only [Option.map_some, Option.map_none, ih hrest]

theorem Pulls.of_wanted {wanted : Option Nat} {items : List α} {ending : Ending}
    {last : Option ρ} (hwanted : ∀ n ∈ wanted, items.length < n)
    (h : Pulls step none place s (⟨items, ending, last⟩, s')) :
    Pulls step wanted place s (⟨items, ending, last⟩, s') := by
  cases wanted with
  | none => exact h
  | some n =>
    obtain ⟨enough, hpull⟩ := h
    refine ⟨enough, ?_⟩
    intro budget hbudget
    rw [← hpull budget hbudget]
    apply pull_of_lt
    rw [hpull budget hbudget]
    exact hwanted n rfl

end Walk

namespace Client

variable {σ : Type}

/-- Collecting comes to a result, with every number of steps from some one on. -/
def Collects (c : Client σ) (model : String) (q : Option Query) (most : Value)
    (options : Option RetryPolicy) (s : Session σ)
    (r : Except Failure (List Value) × Session σ) : Prop :=
  ∃ n, ∀ budget, n ≤ budget → c.fetchAll budget model q most options s = r

/-- Collecting comes to one result. -/
theorem Collects.unique {c : Client σ} {model : String} {q : Option Query} {most : Value}
    {options : Option RetryPolicy} {s : Session σ} {r r' : Except Failure (List Value) × Session σ}
    (h : c.Collects model q most options s r) (h' : c.Collects model q most options s r') :
    r' = r :=
  Walk.unique_of_enough h h'

/-- The outcome is a partial failure that carries the records and their number, with the failure
as its cause. -/
def CarriesRecords (records : List Value) (f : Failure)
    (outcome : Except Failure (List Value)) : Prop :=
  ∃ message e, f = .reported e ∧
    outcome = .error (.reported (.partialFailure message records.length (some e) records))

/-- A bound that lies above a count lets collecting go on after that many records. -/
theorem mostRecords_of_lt {most : Option Int} {count : Nat} (h : ∀ m ∈ most, (count : Int) < m) :
    ∃ wanted, mostRecords (most.elim .null .int) = .ok wanted ∧ ∀ n ∈ wanted, count < n := by
  cases most with
  | none => exact ⟨none, rfl, by simp⟩
  | some m =>
    have hm : (count : Int) < m := h m rfl
    refine ⟨some m.toNat, rfl, ?_⟩
    rintro n ⟨⟩
    omega

/-- What collecting makes of a walk that failed with a report. -/
theorem collected_reported (records : List Value) (e : PortalError) :
    collected records (.failed (.reported e)) = .error (.reported e) ∧
        (records = [] ∨ e.isRateLimit = true) ∨
      CarriesRecords records (.reported e) (collected records (.failed (.reported e))) ∧
        records ≠ [] ∧ e.isRateLimit = false := by
  by_cases hkept : (e.isRateLimit || records.isEmpty) = true
  · refine .inl ⟨by rw [collected, if_pos hkept], ?_⟩
    simpa [or_comm] using hkept
  · have hparts : e.isRateLimit = false ∧ records ≠ [] := by simpa using hkept
    refine .inr ⟨?_, hparts.2, hparts.1⟩
    rw [collected, if_neg hkept]
    exact ⟨_, e, rfl, rfl⟩

/-- Other failures stay as they are. -/
theorem collected_failed {f : Failure} (h : ∀ e, f ≠ .reported e) (records : List Value) :
    collected records (.failed f) = .error f := by
  cases f with
  | reported e => exact absurd rfl (h e)
  | _ => rfl

/-- A failure is not the report of its own records. -/
theorem not_carriesRecords (records : List Value) (f : Failure) :
    ¬CarriesRecords records f (.error f) := by
  rintro ⟨message, e, rfl, h⟩
  injection h with h
  injection h with h
  have hsize := congrArg sizeOf h
  simp at hsize
  omega

/-- Collecting comes to what pulling as many records comes to. -/
theorem collects_of_wanted {c : Client σ} {model : String} {q : Option Query} {most : Value}
    {options : Option RetryPolicy} {wanted : Option Nat} {pulled : Pulled PageWalk.Place Value}
    {s s' : Session σ} (hwanted : mostRecords most = .ok wanted)
    (hpulls : Walk.Pulls ((c.streamWithRetry model q options).step c) wanted .unstarted s
      (pulled, s')) :
    c.Collects model q most options s (collected pulled.items pulled.ending, s') := by
  obtain ⟨enough, hpull⟩ := hpulls
  refine ⟨enough, ?_⟩
  intro budget hbudget
  rw [fetchAll, hwanted]
  simp only [hpull budget hbudget]

/-- Collecting below its bound ends as the walk does. -/
theorem collects_of_pulls {c : Client σ} {model : String} {q : Option Query} {most : Option Int}
    {options : Option RetryPolicy} {records : List Value} {ending : Ending} {s s' : Session σ}
    (hmost : ∀ m ∈ most, (records.length : Int) < m)
    (hpulls : Walk.Pulls ((c.streamWithRetry model q options).step c) none .unstarted s
      (⟨records, ending, none⟩, s')) :
    c.Collects model q (most.elim .null .int) options s (collected records ending, s') := by
  obtain ⟨wanted, hwanted, hfew⟩ := mostRecords_of_lt hmost
  exact collects_of_wanted hwanted (Walk.Pulls.of_wanted hfew hpulls)

/-- **What was collected before a break is carried by the error exactly where the library
reports the break**, and does not report it as a rate limit. Any other break ends collecting
with the failure alone, as does a break before the first record. -/
theorem break_carries_records_iff (c : Client σ) (model : String) (q : Option Query)
    (most : Option Int) (options : Option RetryPolicy) {records : List Value} {f : Failure}
    {s s' : Session σ} (hmost : ∀ m ∈ most, (records.length : Int) < m)
    (hbreak : Walk.Pulls ((c.streamWithRetry model q options).step c) none .unstarted s
      (⟨records, .failed f, none⟩, s')) :
    ∃ outcome, c.Collects model q (most.elim .null .int) options s (outcome, s') ∧
      (records = [] → outcome = .error f) ∧
      (records ≠ [] →
        (CarriesRecords records f outcome ↔ ∃ e, f = .reported e ∧ e.isRateLimit = false)) ∧
      (¬CarriesRecords records f outcome → outcome = .error f) := by
  refine ⟨collected records (.failed f), collects_of_pulls hmost hbreak, ?_⟩
  by_cases hreported : ∃ e, f = .reported e
  · obtain ⟨e, rfl⟩ := hreported
    rcases collected_reported records e with ⟨hsame, hcause⟩ | ⟨hcarries, hrecords, hlimit⟩
    · rw [hsame]
      refine ⟨fun _ => rfl, ?_, fun _ => rfl⟩
      intro hrecords
      have hlimit : e.isRateLimit = true := hcause.resolve_left hrecords
      simp [not_carriesRecords, hlimit]
    · refine ⟨fun h => absurd h hrecords, fun _ => ?_, fun h => absurd hcarries h⟩
      exact ⟨fun _ => ⟨e, rfl, hlimit⟩, fun _ => hcarries⟩
  · have hsame : collected records (.failed f) = .error f :=
      collected_failed (fun e he => hreported ⟨e, he⟩) records
    rw [hsame]
    refine ⟨fun _ => rfl, ?_, fun _ => rfl⟩
    intro _
    constructor
    · exact fun h => absurd h (not_carriesRecords records f)
    · rintro ⟨e, he, -⟩
      exact absurd ⟨e, he⟩ hreported

/-! ## A walk that breaks at its second page -/

open Service PageWalk Replay

/-- A page with a record and the cursor of another page. -/
def firstOfTwo : Reply :=
  page "\x7b\"_data\":[\x7b\"a\":1\x7d],\"_page\":\x7b\"next\":\"c\"\x7d\x7d"

def onlyRecord : Value :=
  .dict [(.str "a", .int 1)]

theorem readReply_firstOfTwo :
    readReply firstOfTwo =
      .ok (.dict [(.str "_data", .list [onlyRecord]),
        (.str "_page", .dict [(.str "next", .str "c")])]) :=
  readReply_page
    [.openObject, .scalar (.str "_data"), .colon, .openList, .openObject, .scalar (.str "a"),
      .colon, .scalar (.int 1), .closeObject, .closeList, .comma, .scalar (.str "_page"), .colon,
      .openObject, .scalar (.str "next"), .colon, .scalar (.str "c"), .closeObject, .closeObject]
    rfl rfl rfl

/-- A walk that delivers a record and breaks at the second page. -/
theorem pulls_broken {reply : Reply} {f : Failure} (hanswered : isRefusal reply = false)
    (hread : readReply reply = .error f) :
    ∃ s', Walk.Pulls ((portal.streamWithRetry "m" none none).step portal) none .unstarted
      (scripted blank none [firstOfTwo, reply] []) (⟨[onlyRecord], .failed f, none⟩, s') := by
  have hbase : (portal.streamWithRetry "m" none none).baseQuery = .ok "?limit(100)".toList := rfl
  have hfirst : landing "?limit(100)".toList 0 firstOfTwo =
      .ok (.moved (.deliver "?limit(100)".toList [onlyRecord]
        (.dict [(.str "_data", .list [onlyRecord]),
          (.str "_page", .dict [(.str "next", .str "c")])]) 0)) := by
    rw [landing, readReply_firstOfTwo]
    rfl
  have hsecond : landing "?limit(100)".toList 1 reply = .error f := by
    rw [landing, hread]
    rfl
  let requests := [none, some (.str "c")].map
    (pageRequest portal.config "/m" "?limit(100)".toList)
  refine ⟨scripted blank none [] (requests.map Event.requested).reverse, ?_⟩
  refine Walk.Pulls.of_step (by simp) (step_unstarted _) ?_
  rw [hbase]
  refine pulls_answered (by simp) (next_cons ..) rfl ?_
  rw [hfirst]
  refine Walk.Pulls.of_step (by simp) rfl ⟨(⟨[], .failed f, none⟩, _), ?_, rfl⟩
  refine Walk.Pulls.of_step (by simp) (step_delivered ..) ?_
  refine pulls_answered (by simp) (next_cons ..) hanswered ?_
  rw [hsecond]
  rfl

/-- The records before an error answer are kept. -/
theorem error_answer_carries_records :
    ∃ s', (∀ m ∈ some (5 : Int), (([onlyRecord].length : Nat) : Int) < m) ∧
      Walk.Pulls ((portal.streamWithRetry "m" none none).step portal) none .unstarted
        (scripted blank none [firstOfTwo, .answered ⟨500, [], 900⟩] [])
        (⟨[onlyRecord], .failed (.reported
          (.service .other "Internal Server Error" 500 .null none)), none⟩, s') ∧
      ∃ outcome, portal.Collects "m" none (.int 5) none
        (scripted blank none [firstOfTwo, .answered ⟨500, [], 900⟩] []) (outcome, s') ∧
        CarriesRecords [onlyRecord]
          (.reported (.service .other "Internal Server Error" 500 .null none)) outcome := by
  have hrefusal : isRefusal (.answered ⟨500, [], 900⟩) = false := rfl
  obtain ⟨s', hbreak⟩ := pulls_broken hrefusal rfl
  have hmost : ∀ m ∈ some (5 : Int), (([onlyRecord].length : Nat) : Int) < m := by simp
  obtain ⟨outcome, hcollects, -, hcarries, -⟩ :=
    break_carries_records_iff portal "m" none (some 5) none hmost hbreak
  exact ⟨s', hmost, hbreak, outcome, hcollects, (hcarries (by simp)).2 ⟨_, rfl, rfl⟩⟩

/-- A lost connection takes the records with it: there is no partial failure. -/
theorem lost_connection_loses_records :
    ∃ s', Walk.Pulls ((portal.streamWithRetry "m" none none).step portal) none .unstarted
        (scripted blank none [firstOfTwo, .unreachable "gone"] [])
        (⟨[onlyRecord], .failed (.unreachable "gone"), none⟩, s') ∧
      portal.Collects "m" none .null none
        (scripted blank none [firstOfTwo, .unreachable "gone"] [])
        (.error (.unreachable "gone"), s') ∧
      ¬∃ message fetched cause records s'', portal.Collects "m" none .null none
        (scripted blank none [firstOfTwo, .unreachable "gone"] [])
        (.error (.reported (.partialFailure message fetched cause records)), s'') := by
  have hrefusal : isRefusal (.unreachable "gone") = false := rfl
  obtain ⟨s', hbreak⟩ := pulls_broken hrefusal rfl
  have hmost : ∀ m ∈ (none : Option Int), (([onlyRecord].length : Nat) : Int) < m := by simp
  have hcollects := collects_of_pulls hmost hbreak
  refine ⟨s', hbreak, hcollects, ?_⟩
  rintro ⟨message, fetched, cause, records, s'', h⟩
  have hsame := h.unique hcollects
  cases hsame

end Client
end DataPortal
