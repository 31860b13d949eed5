import DataPortal.Client.Namespaces
import DataPortal.Proofs.Client.Backoff
import DataPortal.Proofs.Client.Requests
import DataPortal.Proofs.Outcome
import DataPortal.Proofs.Service.Reading
import Mathlib.Data.List.Basic
/-!
# Discovering models in batches

Namespaces are listed some at a time, and what comes of it does not depend on how many: it is
what a walk comes to that lists one namespace at a time, the oldest pending one first (`Fifo`).
Where the namespaces below a root come to an end without repeating (`Forest`), each of them is
listed once and every model is found once, in its own namespace.
-/
namespace DataPortal

open NamespaceItem Outcome

/-! ## Walking one namespace at a time -/

namespace Discovery

/-- What every namespace holds, or the failure of listing it. -/
abbrev Listing :=
  String → Except Failure (List NamespaceItem)

/-- The models directly in a namespace. -/
def modelsIn (listing : Listing) (name : String) : List DiscoveredModel :=
  match listing name with
  | .ok items => models name items
  | .error _ => []

/-- A walk over pending namespaces that lists the first one and puts the namespaces found there
behind the others. It comes to an end with all models, or with the first failure, having listed
some namespaces in this order. -/
inductive Fifo (listing : Listing) :
    List String → List String → Except Failure (List DiscoveredModel) → Prop where
  | done : Fifo listing [] [] (.ok [])
  | failed {name : String} {rest : List String} {f : Failure} : listing name = .error f →
      Fifo listing (name :: rest) [name] (.error f)
  | listed {name : String} {items : List NamespaceItem} {rest listed : List String}
      {outcome : Except Failure (List DiscoveredModel)} : listing name = .ok items →
      Fifo listing (rest ++ namespaces items) listed outcome →
      Fifo listing (name :: rest) (name :: listed) (outcome.map (models name items ++ ·))

variable {listing : Listing} {pending names listed : List String}
  {outcome : Except Failure (List DiscoveredModel)} {found : List DiscoveredModel}

/-- The models are found in the order in which their namespaces are listed. -/
theorem Fifo.found_eq (h : Fifo listing pending listed (.ok found)) :
    found = listed.flatMap (modelsIn listing) := by
  generalize hresult : (Except.ok found : Except Failure _) = result at h
  induction h generalizing found with
  | done =>
    cases hresult
    rfl
  | failed _ => cases hresult
  | @listed name items rest listed outcome hitems _ ih =>
    cases outcome with
    | error f => cases hresult
    | ok more =>
      cases hresult
      have hhere : modelsIn listing name = models name items := by
        rw [modelsIn, hitems]
      rw [List.flatMap_cons, hhere, ← ih rfl]

/-! ## Batches -/

/-- A batch is listed as a whole. Then its first failure ends the walk, or the walk goes on with
the namespaces found in the batch behind those that were pending. -/
theorem Fifo.batch {batch rest : List String} (h : Fifo listing (batch ++ rest) listed outcome) :
    (∃ f, Client.gather (batch.map fun name => (name, listing name)) = .error f ∧
      outcome = .error f) ∨
    ∃ names found later outcome',
      Client.gather (batch.map fun name => (name, listing name)) = .ok (names, found) ∧
      Fifo listing (rest ++ names) later outcome' ∧ listed = batch ++ later ∧
      outcome = outcome'.map (found ++ ·) := by
  induction batch generalizing rest listed outcome with
  | nil =>
    refine .inr ⟨[], [], listed, outcome, rfl, ?_, rfl, ?_⟩
    · rwa [List.append_nil]
    · cases outcome <;> rfl
  | cons name batch ih =>
    rw [List.cons_append] at h
    cases h with
    | failed hfailure =>
      refine .inl ⟨_, ?_, rfl⟩
      rw [List.map_cons, Client.gather, hfailure]
      rfl
    | @listed _ items _ listed outcome hitems hwalk =>
      rw [List.append_assoc] at hwalk
      rw [List.map_cons, Client.gather, hitems]
      rcases ih hwalk with ⟨f, hgather, rfl⟩ | ⟨names, found, later, outcome', hgather, hlater,
        rfl, rfl⟩
      · refine .inl ⟨f, ?_, rfl⟩
        rw [hgather]
        rfl
      · refine .inr ⟨namespaces items ++ names, models name items ++ found, later, outcome', ?_,
          ?_, rfl, ?_⟩
        · rw [hgather]
          rfl
        · rwa [← List.append_assoc]
        · cases outcome' with
          | error f => rfl
          | ok more => exact congrArg Except.ok (List.append_assoc ..).symm

/-! ## Trees of namespaces -/

/-- Below some namespaces lie finite trees: each of them can be listed, and so can what is found
there, until no namespaces are found. All of these are named, with those below a namespace
right behind it. -/
inductive Forest (listing : Listing) : List String → List String → Prop where
  | nil : Forest listing [] []
  | cons {name : String} {items : List NamespaceItem} {rest below beside : List String} :
      listing name = .ok items → Forest listing (namespaces items) below →
      Forest listing rest beside → Forest listing (name :: rest) (name :: below ++ beside)

theorem Forest.append {roots roots' names names' : List String} (h : Forest listing roots names)
    (h' : Forest listing roots' names') : Forest listing (roots ++ roots') (names ++ names') := by
  induction h with
  | nil => exact h'
  | cons hitems hbelow _ _ ih =>
    have hall := Forest.cons hitems hbelow ih
    rwa [← List.append_assoc] at hall

/-- The walk over finite trees lists each of their namespaces once. -/
theorem Forest.fifo (h : Forest listing pending names) :
    ∃ listed found, Fifo listing pending listed (.ok found) ∧ listed.Perm names := by
  -- on the number of namespaces that are still to be listed
  induction hcount : names.length using Nat.strongRecOn generalizing pending names with
  | ind count ih =>
    cases h with
    | nil => exact ⟨[], [], .done, .refl []⟩
    | @cons name items rest below beside hitems hbelow hbeside =>
      have hfewer : (beside ++ below).length < count := by
        simp only [List.cons_append, List.length_cons, List.length_append] at hcount ⊢
        omega
      obtain ⟨listed, found, hwalk, hperm⟩ := ih _ hfewer (hbeside.append hbelow) rfl
      refine ⟨name :: listed, models name items ++ found, .listed hitems hwalk, ?_⟩
      exact (hperm.trans List.perm_append_comm).cons name

end Discovery

/-! ## A service that lists namespaces -/

namespace Client

open Discovery

variable {σ : Type} {c : Client σ} {listing : Listing} {asked : σ → List String}
  {ms : Value}

/-- The address under which a namespace is listed. -/
def namespaceAddress (base name : String) : String :=
  base ++ "/" ++ name ++ "/:ns"

/-- A service that lists every namespace as it does, whenever it is asked. The world notes where
the requests were sent. -/
structure ServesNamespaces (h : Host σ) (address : String → String) (listing : Listing)
    (asked : σ → List String) : Prop where
  notes : h.Notes (fun r _ => r.url) asked
  answers : ∀ name r w, r.url = address name →
    (readReply (h.get r w).1 >>= NamespaceItem.listing) = listing name

/-- An interval that a throttle can always keep. -/
def HasInterval (ms : Value) : Prop :=
  ∀ t, ∃ seconds, intervalSeconds ms t = .ok seconds

theorem hasInterval_zero : HasInterval (.int 0) := by
  intro t
  exact ⟨.zero false, rfl⟩

/-! ## Steps of the walk -/

/-- To wait is to take a turn at the throttle at what the stopwatch shows, and to sleep until the
start if that lies ahead. -/
theorem waitTurn_of_interval (host : Host σ) {t : Throttle Binary64} {seconds : Binary64}
    (h : intervalSeconds ms t = .ok seconds) (s : Session σ) :
    waitTurn host ms t s =
      (.ok (t.reserve seconds (host.stopwatch s.outside).1),
        ⟨match Throttle.wait? (t.nextStart seconds (host.stopwatch s.outside).1)
            (host.stopwatch s.outside).1 with
          | none => (host.stopwatch s.outside).2
          | some wait => host.sleep wait (host.stopwatch s.outside).2, s.token⟩) := by
  have hinterval : Action.settle (intervalSeconds ms t) s = (.ok seconds, s) := by
    rw [h]
    rfl
  have hnow : Action.ask host.stopwatch s =
      (.ok (host.stopwatch s.outside).1, ⟨(host.stopwatch s.outside).2, s.token⟩) := rfl
  rw [waitTurn, Action.bind_of_ok hinterval, Action.bind_of_ok hnow]
  cases Throttle.wait? (t.nextStart seconds (host.stopwatch s.outside).1)
      (host.stopwatch s.outside).1 <;> rfl

theorem waitTurn_eq (hnotes : c.host.Notes (fun r _ => r.url) asked) (hms : HasInterval ms)
    (t : Throttle Binary64) (s : Session σ) :
    ∃ t' s', waitTurn c.host ms t s = (.ok t', s') ∧ asked s'.outside = asked s.outside := by
  obtain ⟨seconds, hseconds⟩ := hms t
  have hread : asked (c.host.stopwatch s.outside).2 = asked s.outside :=
    hnotes.keeps.stopwatch s.outside
  refine ⟨_, _, waitTurn_of_interval c.host hseconds s, ?_⟩
  dsimp only
  split
  · exact hread
  · exact (hnotes.keeps.sleep _ _).trans hread

/-- One batch: its first failure, or what the walk comes to from there. -/
theorem walkNamespaces_succ {atOnce : Nat} {pending : List String} (hpending : pending ≠ [])
    {listings : List (String × Except Failure (List NamespaceItem))}
    {t t' : Throttle Binary64} {s s' : Session σ}
    (hlist : c.listBatch ms t (pending.take atOnce) s = (.ok (listings, t'), s'))
    (budget : Nat) :
    c.walkNamespaces ms atOnce (budget + 1) t pending s =
      match gather listings with
      | .error f => (.ok (.error f, t'), s')
      | .ok (names, found) =>
        (c.walkNamespaces ms atOnce budget t' (pending.drop atOnce ++ names) >>=
          fun p => pure (p.1.map (found ++ ·), p.2)) s' := by
  rw [walkNamespaces, Action.bind_of_ok hlist]
  · dsimp only
    cases gather listings <;> rfl
  · exact hpending

section Serving

variable (hserver : ServesNamespaces c.host (namespaceAddress c.config.baseUrl) listing asked)
  (hheaders : c.HasHeaders)

include hserver hheaders

theorem listNamespace_eq (name : String) (s : Session σ) :
    ∃ s', c.listNamespace name s = (listing name, s') ∧
      asked s'.outside = namespaceAddress c.config.baseUrl name :: asked s.outside := by
  obtain ⟨r, w, token, hurl, hsame, hfetch⟩ := fetch_eq hserver.notes.keeps hheaders
    ("/" ++ name ++ String.ofList NamespaceItem.suffix) [] s
  have haddress : r.url = namespaceAddress c.config.baseUrl name := by
    rw [hurl, namespaceAddress]
    simp [NamespaceItem.suffix, String.append_assoc]
  refine ⟨⟨(c.host.get r w).2, token⟩, ?_, ?_⟩
  · rw [listNamespace, Action.bind_settle, hfetch]
    simp only [hserver.answers name r w haddress]
  · show asked (c.host.get r w).2 = _
    rw [hserver.notes.get, haddress, hsame]

variable (hms : HasInterval ms)

include hms

theorem listInTurn_eq (t : Throttle Binary64) (name : String) (s : Session σ) :
    ∃ t' s', c.listInTurn ms t name s = (.ok (listing name, t'), s') ∧
      asked s'.outside = namespaceAddress c.config.baseUrl name :: asked s.outside := by
  obtain ⟨t', s₁, hturn, hwaited⟩ := waitTurn_eq hserver.notes hms t s
  obtain ⟨s₂, hlist, hasked⟩ := listNamespace_eq hserver hheaders name s₁
  have hturn' : (waitTurn c.host ms t).outcome s = (.ok (.ok t'), s₁) := by
    rw [Action.outcome, hturn]
  have hlist' : (c.listNamespace name).outcome s₁ = (.ok (listing name), s₂) := by
    rw [Action.outcome, hlist]
  refine ⟨t', s₂, ?_, by rw [hasked, hwaited]⟩
  rw [listInTurn, Action.bind_of_ok hturn']
  exact Action.bind_of_ok hlist'

/-- A batch is listed with one request for each of its namespaces. -/
theorem listBatch_eq (batch : List String) (t : Throttle Binary64) (s : Session σ) :
    ∃ t' s', c.listBatch ms t batch s =
        (.ok (batch.map fun name => (name, listing name), t'), s') ∧
      asked s'.outside =
        (batch.map (namespaceAddress c.config.baseUrl)).reverse ++ asked s.outside := by
  induction batch generalizing t s with
  | nil => exact ⟨t, s, rfl, rfl⟩
  | cons name batch ih =>
    obtain ⟨t₁, s₁, hfirst, hasked₁⟩ := listInTurn_eq hserver hheaders hms t name s
    obtain ⟨t₂, s₂, hrest, hasked₂⟩ := ih t₁ s₁
    refine ⟨t₂, s₂, ?_, ?_⟩
    · rw [listBatch, Action.bind_of_ok hfirst]
      exact Action.bind_of_ok hrest
    · rw [hasked₂, hasked₁]
      simp

/-! ## The walk in batches -/

/-- What the walk in batches comes to is what the walk one at a time comes to. A batch lists at
least one namespace, so that as many batches are enough as namespaces are listed. -/
theorem walkNamespaces_eq {atOnce : Nat} (hatOnce : 1 ≤ atOnce) {pending listed : List String}
    {outcome : Except Failure (List DiscoveredModel)}
    (h : Fifo listing pending listed outcome) (t : Throttle Binary64) (s : Session σ) :
    ∃ t' s', (∀ budget, listed.length ≤ budget →
        c.walkNamespaces ms atOnce budget t pending s = (.ok (outcome, t'), s')) ∧
      ∀ found, outcome = .ok found → asked s'.outside =
        (listed.map (namespaceAddress c.config.baseUrl)).reverse ++ asked s.outside := by
  -- on the number of namespaces that are listed
  induction hcount : listed.length using Nat.strongRecOn
    generalizing pending listed outcome t s with
  | ind count ih =>
    by_cases hpending : pending = []
    · subst hpending
      cases h
      refine ⟨t, s, ?_, fun _ _ => rfl⟩
      intro budget _
      rw [walkNamespaces]
      rfl
    · have hbatch : 1 ≤ (pending.take atOnce).length := by
        have hsome := List.length_pos_iff.2 hpending
        rw [List.length_take]
        omega
      have hcost : 1 ≤ listed.length := by
        cases h with
        | done => exact absurd rfl hpending
        | failed | listed => simp
      obtain ⟨t₁, s₁, hlist, hasked₁⟩ :=
        listBatch_eq hserver hheaders hms (pending.take atOnce) t s
      rw [← List.take_append_drop atOnce pending] at h
      rcases h.batch with ⟨f, hgather, rfl⟩ | ⟨names, found, later, outcome', hgather, hlater,
        rfl, rfl⟩
      · refine ⟨t₁, s₁, ?_, fun _ hfound => by cases hfound⟩
        intro budget hbudget
        obtain ⟨budget, rfl⟩ : ∃ n, budget = n + 1 := ⟨budget - 1, by omega⟩
        rw [walkNamespaces_succ hpending hlist, hgather]
      · have hfewer : later.length < count := by
          rw [← hcount, List.length_append]
          omega
        obtain ⟨t₂, s₂, hrest, hasked₂⟩ := ih later.length hfewer hlater t₁ s₁ rfl
        refine ⟨t₂, s₂, ?_, ?_⟩
        · intro budget hbudget
          obtain ⟨budget, rfl⟩ : ∃ n, budget = n + 1 := ⟨budget - 1, by omega⟩
          rw [walkNamespaces_succ hpending hlist, hgather]
          exact Action.bind_of_ok (hrest budget (by omega))
        · intro all hall
          cases outcome' with
          | error f => cases hall
          | ok more =>
            rw [hasked₂ more rfl, hasked₁]
            simp only [List.map_append, List.reverse_append, List.append_assoc]

end Serving

/-- How many namespaces are listed at a time, where that is a whole number of at least one. -/
theorem atOnceOf_int {k : Int} (hk : 1 ≤ k) : atOnceOf (.int k) = .ok k.toNat := by
  have hless : Quantity.isLess (.whole k) (.whole 1) = Value.isLess (.int k) (.int 1) := rfl
  have hmany : Quantity.isLess (.whole k) (.whole 1) = .ok false := by
    rw [hless, Schedule.isLess_int, decide_eq_false]
    omega
  have hcount : atOnceOf (.int k) = (do
      if ← Quantity.isLess (.whole k) (.whole 1) then throw .noConcurrency
      return k.toNat) := rfl
  rw [hcount, hmany]
  rfl

/-- Discovery is the walk from the root on. -/
theorem discover_eq {concurrency : Option Value} {k : Int}
    (hconcurrency : concurrency.getD c.config.discovery.concurrency = .int k) (hk : 1 ≤ k)
    (budget : Nat) (root : String) (ms : Value) (t : Throttle Binary64) :
    c.discover budget root concurrency ms t =
      c.walkNamespaces ms k.toNat budget t [root] := by
  rw [discover, hconcurrency, atOnceOf_int hk]

/-- Discovery comes to a result, with every number of batches from some one on. -/
def Discovers (c : Client σ) (root : String) (concurrency : Option Value) (ms : Value)
    (t : Throttle Binary64) (s : Session σ)
    (r : Except Failure (Except Failure (List DiscoveredModel) × Throttle Binary64) × Session σ) :
    Prop :=
  ∃ n, ∀ budget, n ≤ budget → c.discover budget root concurrency ms t s = r

/-- **Discovery comes to what the walk one at a time comes to**, however many namespaces are
listed at a time: to the same models in the same order, or to the failure that this walk meets
first. Where the namespaces from the root on form a finite tree, it succeeds, with one request
for each namespace of the tree, and finds each model of their listings once. -/
theorem discovers_as_fifo (c : Client σ) (listing : Listing) (asked : σ → List String)
    (hserver : ServesNamespaces c.host (namespaceAddress c.config.baseUrl) listing asked)
    (hheaders : c.HasHeaders) (root : String) (concurrency : Option Value) {k : Int}
    (hconcurrency : concurrency.getD c.config.discovery.concurrency = .int k) (hk : 1 ≤ k)
    (ms : Value) (hms : HasInterval ms) (t : Throttle Binary64) (s : Session σ) :
    (∀ listed outcome, Fifo listing [root] listed outcome →
      ∃ t' s', c.Discovers root concurrency ms t s (.ok (outcome, t'), s') ∧
        ∀ found, outcome = .ok found → asked s'.outside =
          (listed.map (namespaceAddress c.config.baseUrl)).reverse ++ asked s.outside) ∧
    (∀ names, Forest listing [root] names →
      ∃ found t' s' sent, c.Discovers root concurrency ms t s (.ok (.ok found, t'), s') ∧
        asked s'.outside = sent ++ asked s.outside ∧
        sent.Perm (names.map (namespaceAddress c.config.baseUrl)) ∧
        found.Perm (names.flatMap (modelsIn listing))) := by
  have hfifo : ∀ listed outcome, Fifo listing [root] listed outcome →
      ∃ t' s', c.Discovers root concurrency ms t s (.ok (outcome, t'), s') ∧
        ∀ found, outcome = .ok found → asked s'.outside =
          (listed.map (namespaceAddress c.config.baseUrl)).reverse ++ asked s.outside := by
    intro listed outcome hwalk
    obtain ⟨t', s', hend, hasked⟩ := walkNamespaces_eq hserver hheaders hms
      (show 1 ≤ k.toNat by omega) hwalk t s
    refine ⟨t', s', ⟨listed.length, ?_⟩, hasked⟩
    intro budget hbudget
    rw [discover_eq hconcurrency hk]
    exact hend budget hbudget
  refine ⟨hfifo, ?_⟩
  intro names hforest
  obtain ⟨listed, found, hwalk, hperm⟩ := hforest.fifo
  obtain ⟨t', s', hend, hasked⟩ := hfifo listed (.ok found) hwalk
  refine ⟨found, t', s', _, hend, hasked found rfl, ?_, ?_⟩
  · exact (List.reverse_perm _).trans (hperm.map _)
  · rw [hwalk.found_eq]
    exact hperm.flatMap_right _

/-! ## A service that answers an address always alike -/

open Service

/-- A client of that service, with notes of its requests. -/
def steady (reply : String → Reply) : Client (Noted Unit String) :=
  plain "https://test.api"
    ((Host.answering fun r w => (reply r.url, w)).noting fun r _ => r.url)

def steadyListing (reply : String → Reply) : Listing := fun name =>
  readReply (reply (namespaceAddress "https://test.api" name)) >>= NamespaceItem.listing

theorem steady_serves (reply : String → Reply) :
    ServesNamespaces (steady reply).host (namespaceAddress (steady reply).config.baseUrl)
      (steadyListing reply) Noted.notes where
  notes := Host.notes_noting _ fun r _ => r.url
  answers name r w hurl := by
    show (readReply (reply r.url) >>= NamespaceItem.listing) = _
    rw [hurl]
    rfl

/-- What such a service lists under a name is what the page answered for it tells. -/
theorem steadyListing_page {reply : String → Reply} {name s : String} {v : Value}
    {items : List NamespaceItem}
    (hreply : reply (namespaceAddress "https://test.api" name) = page s)
    (hpage : readReply (page s) = .ok v) (hitems : NamespaceItem.listing v = .ok items) :
    steadyListing reply name = .ok items := by
  rw [steadyListing, hreply, hpage]
  exact hitems

/-! ## A tree of two namespaces -/

/-- What is answered under an address: a namespace with a model and a namespace, that one with
another model, and nothing else. -/
def smallTreeReply (url : String) : Reply :=
  if url = "https://test.api/a/:ns" then
    page "\x7b\"_data\":[\x7b\"name\":\"a/b/:ns\"\x7d,\x7b\"name\":\"a/M\"\x7d]\x7d"
  else if url = "https://test.api/a/b/:ns" then
    page "\x7b\"_data\":[\x7b\"name\":\"a/b/N\"\x7d]\x7d"
  else .answered ⟨404, [], 900⟩

def smallTree : Client (Noted Unit String) :=
  steady smallTreeReply

def smallTreeListing : Listing :=
  steadyListing smallTreeReply

theorem smallTreeListing_root : smallTreeListing "a" =
    .ok [⟨"a/b", true, .null⟩, ⟨"a/M", false, .null⟩] :=
  steadyListing_page rfl (readReply_page [.openObject, .scalar (.str "_data"), .colon, .openList,
    .openObject, .scalar (.str "name"), .colon, .scalar (.str "a/b/:ns"), .closeObject, .comma,
    .openObject, .scalar (.str "name"), .colon, .scalar (.str "a/M"), .closeObject, .closeList,
    .closeObject] rfl rfl rfl) rfl

theorem smallTreeListing_inner : smallTreeListing "a/b" = .ok [⟨"a/b/N", false, .null⟩] :=
  steadyListing_page rfl (readReply_page [.openObject, .scalar (.str "_data"), .colon, .openList,
    .openObject, .scalar (.str "name"), .colon, .scalar (.str "a/b/N"), .closeObject, .closeList,
    .closeObject] rfl rfl rfl) rfl

theorem smallTree_forest : Forest smallTreeListing ["a"] ["a", "a/b"] :=
  .cons smallTreeListing_root (.cons smallTreeListing_inner .nil .nil) .nil

/-- Both models of the tree are found, with several namespaces listed at a time. -/
theorem smallTree_discovers :
    ServesNamespaces smallTree.host (namespaceAddress smallTree.config.baseUrl) smallTreeListing
        Noted.notes ∧
      smallTree.HasHeaders ∧
      (some (Value.int 4)).getD smallTree.config.discovery.concurrency = .int 4 ∧
      (1 : Int) ≤ 4 ∧ HasInterval (.int 0) ∧ Forest smallTreeListing ["a"] ["a", "a/b"] ∧
      ∃ found t' s' sent, smallTree.Discovers "a" (some (.int 4)) (.int 0) .idle ⟨⟨(), []⟩, none⟩
          (.ok (.ok found, t'), s') ∧
        s'.outside.notes = sent ++ [] ∧
        sent.Perm ["https://test.api/a/:ns", "https://test.api/a/b/:ns"] ∧
        found.Perm [⟨"a/M", "a", .null⟩, ⟨"a/b/N", "a/b", .null⟩] := by
  have hheaders : smallTree.HasHeaders := hasHeaders_of_open rfl
  have hserves := steady_serves smallTreeReply
  have hwalk := discovers_as_fifo smallTree smallTreeListing Noted.notes hserves hheaders "a"
    (some (.int 4)) rfl (by decide) (.int 0) hasInterval_zero .idle ⟨⟨(), []⟩, none⟩
  have hmodels : ["a", "a/b"].flatMap (modelsIn smallTreeListing) =
      [⟨"a/M", "a", .null⟩, ⟨"a/b/N", "a/b", .null⟩] := by
    simp only [List.flatMap_cons, List.flatMap_nil, modelsIn, smallTreeListing_root,
      smallTreeListing_inner]
    rfl
  refine ⟨hserves, hheaders, rfl, by decide, hasInterval_zero, smallTree_forest, ?_⟩
  rw [← hmodels]
  exact hwalk.2 _ smallTree_forest

end Client
end DataPortal
