import DataPortal.Query.Basic
import Mathlib.Data.List.Induction
/-!
# Calls on a query

A query is built by calls of several kinds in any order. What a query is depends on each kind
of calls apart (`asked`): a call changes its own part of what is asked for and no other. So
calls of different kinds commute, and each kind has one clause, at its place in the text.
-/
namespace DataPortal.Query

open Text

/-- A call on a query. -/
inductive Call where
  | select (fields : List String)
  | filter (f : Filter)
  | sort (field : String)
  | sortDescending (field : String)
  | limit (n : Value)
  | count

namespace Call

/-- The query after a call. -/
def apply (q : Query) : Call → Query
  | .select fields => q.select fields
  | .filter f => q.addFilter f
  | .sort field => q.sort field
  | .sortDescending field => q.sortDescending field
  | .limit n => q.withLimit n
  | .count => q.count

/-! What a call asks for, of each kind. -/

def fields : Call → List String
  | .select fields => fields
  | _ => []

def filter? : Call → Option Filter
  | .filter f => some f
  | _ => none

def sortKey? : Call → Option SortKey
  | .sort field => some ⟨field, false⟩
  | .sortDescending field => some ⟨field, true⟩
  | _ => none

def limit? : Call → Option Value
  | .limit n => some n
  | _ => none

def counts : Call → Bool
  | .count => true
  | _ => false

end Call

/-- The query that some calls build. -/
def build (calls : List Call) : Query :=
  calls.foldl Call.apply empty

/-- What calls ask for, each kind of them apart: the fields, the filters and the sort keys in
their order, the value of the last limit, which is null if there was none, and whether the
number of objects. -/
structure Asked where
  fields : List String
  filters : List Filter
  sortKeys : List SortKey
  limit : Value
  counts : Bool

def asked (calls : List Call) : Asked where
  fields := calls.flatMap Call.fields
  filters := calls.filterMap Call.filter?
  sortKeys := calls.filterMap Call.sortKey?
  limit := (calls.filterMap Call.limit?).getLast?.getD .null
  counts := calls.any Call.counts

/-! ## Filters that must all hold -/

/-- Filters joined by "and" from the left. -/
def conjunction : List Filter → Option Filter
  | [] => none
  | f :: fs => some (fs.foldl .and f)

theorem conjunction_concat (fs : List Filter) (g : Filter) :
    conjunction (fs ++ [g]) =
      match conjunction fs with
      | none => some g
      | some f => some (.and f g) := by
  cases fs with
  | nil => rfl
  | cons f fs => simp [conjunction]

/-- The text of a filter as an operand of "and". -/
def conjunctText (f : Filter) : Except Failure (List Char) :=
  f.render.map f.asConjunct

/-- The text of filters that must all hold. Parentheses stand round an "or" among others. -/
def filterClause : List Filter → Except Failure (List Char)
  | [f] => f.render
  | fs => (fs.mapM conjunctText).map (joinWith ['&'])

theorem conjunctText_and (f g : Filter) :
    conjunctText (.and f g) = do
      let s ← conjunctText f
      let t ← conjunctText g
      return s ++ '&' :: t := by
  rw [conjunctText, Filter.render, conjunctText, conjunctText]
  cases f.render <;> cases g.render <;> rfl

theorem conjunctText_foldl (f : Filter) (fs : List Filter) :
    conjunctText (fs.foldl .and f) = ((f :: fs).mapM conjunctText).map (joinWith ['&']) := by
  induction fs generalizing f with
  | nil =>
    rw [List.foldl_nil, List.mapM_cons, List.mapM_nil]
    cases conjunctText f <;> rfl
  | cons g fs ih =>
    -- the first two stand where their conjunction stands
    rw [List.foldl_cons, ih, List.mapM_cons, List.mapM_cons, List.mapM_cons, conjunctText_and]
    cases conjunctText f with
    | error e => rfl
    | ok s =>
      cases conjunctText g with
      | error e => rfl
      | ok t =>
        cases fs.mapM conjunctText with
        | error e => rfl
        | ok ss => cases ss <;> simp [pure, Except.pure, bind, Except.bind, Except.map, joinWith]

theorem conjunctText_of_isOr_eq_false {f : Filter} (h : f.isOr = false) :
    conjunctText f = f.render := by
  rw [conjunctText]
  cases f.render <;> simp [Except.map, Filter.asConjunct, h]

theorem isOr_foldl {f : Filter} (h : f.isOr = false) (fs : List Filter) :
    (fs.foldl .and f).isOr = false := by
  induction fs generalizing f with
  | nil => exact h
  | cons g fs ih => exact ih rfl

theorem render_foldl (f : Filter) (fs : List Filter) :
    (fs.foldl .and f).render = filterClause (f :: fs) := by
  cases fs with
  | nil => rfl
  | cons g fs =>
    have hor : ((g :: fs).foldl .and f).isOr = false := isOr_foldl (f := .and f g) rfl fs
    rw [← conjunctText_of_isOr_eq_false hor, conjunctText_foldl, filterClause]
    simp

/-! ## What a query is -/

/-- The query that asks for this. -/
def Asked.query (a : Asked) : Query :=
  (⟨a.fields, a.sortKeys, none, a.counts, conjunction a.filters⟩ : Query).withLimit a.limit

/-- What is asked for after one more call. -/
def Asked.add (a : Asked) : Call → Asked
  | .select fields => { a with fields := a.fields ++ fields }
  | .filter f => { a with filters := a.filters ++ [f] }
  | .sort field => { a with sortKeys := a.sortKeys ++ [⟨field, false⟩] }
  | .sortDescending field => { a with sortKeys := a.sortKeys ++ [⟨field, true⟩] }
  | .limit n => { a with limit := n }
  | .count => { a with counts := true }

theorem asked_concat (calls : List Call) (c : Call) :
    asked (calls ++ [c]) = (asked calls).add c := by
  cases c <;>
    simp [asked, Asked.add, Call.fields, Call.filter?, Call.sortKey?, Call.limit?, Call.counts]

/-- A call changes its own part of what is asked for. -/
theorem query_add (a : Asked) (c : Call) : (a.add c).query = c.apply a.query := by
  cases c with
  | filter f =>
    simp only [Asked.add, Asked.query, Call.apply, conjunction_concat]
    rfl
  | select fields | sort field | sortDescending field | limit n | count => rfl

/-- **A query is what its calls ask for**, each kind of them apart. -/
theorem build_eq (calls : List Call) : build calls = (asked calls).query := by
  induction calls using List.reverseRecOn with
  | nil => rfl
  | append_singleton calls c ih =>
    rw [asked_concat, query_add, ← ih, build, List.foldl_append]
    rfl

/-! ## The clauses in their order -/

/-- The kinds of clauses. -/
inductive ClauseKind where
  | select | filter | sort | limit | count
  deriving DecidableEq, Repr

/-- All kinds in the order in which they are written. -/
def ClauseKind.all : List ClauseKind :=
  [.select, .filter, .sort, .limit, .count]

namespace Asked

/-- Whether something is asked for that a clause of this kind says. -/
def has (a : Asked) : ClauseKind → Bool
  | .select => !a.fields.isEmpty
  | .filter => !a.filters.isEmpty
  | .sort => !a.sortKeys.isEmpty
  | .limit => match a.limit with
    | .null => false
    | _ => true
  | .count => a.counts

/-- The clause of a kind. -/
def clause (a : Asked) : ClauseKind → Except Failure (List Char)
  | .select => .ok (Query.clause "select" (joinWith [','] (a.fields.map String.toList)))
  | .filter => filterClause a.filters
  | .sort => .ok (Query.clause "sort" (joinWith [','] (a.sortKeys.map SortKey.text)))
  | .limit => .ok (Query.clause "limit" a.limit.display)
  | .count => .ok (Query.clause "count" [])

/-- The clauses of the kinds that something is asked for. -/
def clausesOf (a : Asked) (kinds : List ClauseKind) : Except Failure (List (List Char)) :=
  (kinds.filter a.has).mapM a.clause

theorem clausesOf_append (a : Asked) (ks ls : List ClauseKind) :
    a.clausesOf (ks ++ ls) = do
      let ss ← a.clausesOf ks
      let ts ← a.clausesOf ls
      return ss ++ ts := by
  rw [clausesOf, List.filter_append, List.mapM_append]
  rfl

theorem clausesOf_singleton (a : Asked) (k : ClauseKind) :
    a.clausesOf [k] = if a.has k then (a.clause k).map ([·]) else .ok [] := by
  rw [clausesOf, List.filter_cons, List.filter_nil]
  split
  · rw [List.mapM_cons, List.mapM_nil]
    cases a.clause k <;> rfl
  · rfl

theorem clausesOf_singleton_ok {a : Asked} {k : ClauseKind} {s : List Char}
    (h : a.clause k = .ok s) : a.clausesOf [k] = .ok (if a.has k then [s] else []) := by
  rw [clausesOf_singleton, h]
  split <;> rfl

theorem clausesOf_select (a : Asked) : a.clausesOf [.select] = .ok a.query.selectClause := by
  have hfields : a.query.fields = a.fields := rfl
  rw [clausesOf_singleton_ok rfl, selectClause, hfields, has]
  cases a.fields <;> rfl

theorem clausesOf_filter (a : Asked) : a.clausesOf [.filter] = a.query.filterText := by
  have hfilter : a.query.filter = conjunction a.filters := rfl
  rw [clausesOf_singleton, filterText, hfilter, has, clause]
  cases a.filters with
  | nil => rfl
  | cons f fs =>
    simp only [conjunction, render_foldl]
    cases filterClause (f :: fs) <;> rfl

theorem clausesOf_later (a : Asked) :
    a.clausesOf [.sort, .limit, .count] = .ok a.query.laterClauses := by
  have hkinds : [ClauseKind.sort, .limit, .count] = [.sort] ++ ([.limit] ++ [.count]) := rfl
  rw [hkinds, clausesOf_append, clausesOf_append, clausesOf_singleton_ok rfl,
    clausesOf_singleton_ok rfl, clausesOf_singleton_ok rfl, laterClauses, List.append_assoc]
  refine congrArg Except.ok (congrArg₂ (· ++ ·) ?_ (congrArg₂ (· ++ ·) ?_ ?_))
  · have hkeys : a.query.sortKeys = a.sortKeys := rfl
    rw [has, hkeys]
    cases a.sortKeys <;> rfl
  · have hlimit : a.query.limit = match a.limit with
      | .null => none
      | n => some n := rfl
    rw [has, hlimit]
    cases a.limit <;> rfl
  · rfl

/-- The clauses of a query stand in their fixed order, each of them if it is asked for. -/
theorem render_query (a : Asked) :
    a.query.render = (a.clausesOf ClauseKind.all).map joinClauses := by
  have hkinds : ClauseKind.all = [.select] ++ ([.filter] ++ [.sort, .limit, .count]) := rfl
  rw [hkinds, clausesOf_append, clausesOf_append, clausesOf_select, clausesOf_filter,
    clausesOf_later, render, clauses]
  cases a.query.filterText with
  | error e => rfl
  | ok ss =>
    have hassoc := List.append_assoc a.query.selectClause ss a.query.laterClauses
    exact congrArg (fun parts => Except.ok (joinClauses parts)) hassoc

/-- The kinds that something is asked for, in the order of their clauses. -/
def kinds (a : Asked) : List ClauseKind :=
  ClauseKind.all.filter a.has

end Asked

theorem map_joinClauses {α : Type} {as : List α} (h : as ≠ [])
    (f : α → Except Failure (List Char)) :
    (as.mapM f).map joinClauses = (as.mapM f).map fun parts => '?' :: joinWith ['&'] parts := by
  cases as with
  | nil => exact absurd rfl h
  | cons a as =>
    rw [List.mapM_cons]
    cases f a with
    | error e => rfl
    | ok s => cases as.mapM f <;> rfl

/-- **Calls of different kinds commute.** Calls that ask for the same, each kind of them apart,
build queries of one text. It is empty if nothing is asked for, and else a question mark and
the clauses of the kinds that something is asked for, joined by `&`: each of them once, and in
their fixed order. -/
theorem calls_of_kinds_commute (calls calls' : List Call) (h : asked calls = asked calls') :
    (build calls).render = (build calls').render ∧
      (asked calls).kinds.Sublist [.select, .filter, .sort, .limit, .count] ∧
      ((asked calls).kinds = [] → (build calls).render = .ok []) ∧
      ((asked calls).kinds ≠ [] → (build calls).render =
        ((asked calls).kinds.mapM (asked calls).clause).map
          fun parts => '?' :: joinWith ['&'] parts) := by
  rw [build_eq, build_eq, h, Asked.render_query]
  refine ⟨rfl, List.filter_sublist, ?_, ?_⟩
  · intro hnone
    rw [Asked.clausesOf, ← Asked.kinds, hnone]
    rfl
  · intro hsome
    exact map_joinClauses hsome _

/-- Two filters, of which one is an "or", and two limits among calls of every kind. -/
def mixedCalls : List Call :=
  [.limit (.int 5), .filter (.or (.comparing "a" .eq (.int 1)) (.comparing "b" .eq (.int 2))),
    .sort "name", .count, .select ["name"], .sortDescending "date", .limit (.int 10),
    .select ["date", "a"], .filter (.comparing "c" .gt (.int 3))]

/-- The same with the calls of a kind together, and the number of objects asked for twice. -/
def sortedCalls : List Call :=
  [.count, .limit (.int 10), .sort "name", .sortDescending "date",
    .filter (.or (.comparing "a" .eq (.int 1)) (.comparing "b" .eq (.int 2))),
    .filter (.comparing "c" .gt (.int 3)), .select ["name", "date"], .select ["a"], .count]

theorem mixedCalls_commute :
    asked mixedCalls = asked sortedCalls ∧
      (build mixedCalls).render = (build sortedCalls).render ∧
      (build mixedCalls).render =
        .ok "?select(name,date,a)&(a=1|b=2)&c>3&sort(name,-date)&limit(10)&count()".toList :=
  ⟨rfl, (calls_of_kinds_commute mixedCalls sortedCalls rfl).1, rfl⟩

end DataPortal.Query
