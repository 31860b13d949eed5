import DataPortal.Proofs.Client.Discovery
import Mathlib.Data.Fintype.Card
import Mathlib.Data.Fintype.EquivFin
import Mathlib.Data.Fintype.Sets
import Mathlib.Logic.Relation
/-!
# Loops among namespaces

The walk over namespaces keeps no account of those that it has listed. Over finitely many namespaces
it comes to an end exactly where none that it meets leads back to itself: then they form a finite
tree, in which a namespace that is named at several places stands at each of them. A namespace that
leads back to itself stays pending in one form or another, and the walk never stops asking.
-/
namespace DataPortal

open NamespaceItem Relation

namespace Discovery

/-- The listing of a namespace names another one. -/
def Names (listing : Listing) (name below : String) : Prop :=
  ∃ items, listing name = .ok items ∧ below ∈ namespaces items

/-- From a namespace the listings lead to one that they lead back to. -/
def LeadsToLoop (listing : Listing) (name : String) : Prop :=
  ∃ again, ReflTransGen (Names listing) name again ∧ TransGen (Names listing) again again

/-- Each of some namespaces can be listed and names no others. -/
def ListsWithin (listing : Listing) (all : List String) : Prop :=
  ∀ name ∈ all, ∃ items, listing name = .ok items ∧ ∀ below ∈ namespaces items, below ∈ all

/-- The namespaces directly in a namespace. -/
def namespacesIn (listing : Listing) (name : String) : List String :=
  match listing name with
  | .ok items => namespaces items
  | .error _ => []

variable {listing : Listing} {all : List String} {root name : String}

theorem ListsWithin.namespacesIn_mem (h : ListsWithin listing all) (hname : name ∈ all) :
    ∀ below ∈ namespacesIn listing name, below ∈ all := by
  obtain ⟨items, hitems, hwithin⟩ := h name hname
  rw [namespacesIn, hitems]
  exact hwithin

/-! ## Without a loop -/

/-- Trees below each of some namespaces are trees below all of them. -/
theorem exists_forest_of_each {roots : List String}
    (h : ∀ name ∈ roots, ∃ names, Forest listing [name] names) :
    ∃ names, Forest listing roots names := by
  induction roots with
  | nil => exact ⟨[], .nil⟩
  | cons name roots ih =>
    obtain ⟨here, hhere⟩ := h name (by simp)
    obtain ⟨beside, hbeside⟩ := ih fun other hother => h other (by simp [hother])
    exact ⟨_, hhere.append hbeside⟩

/-- Among finitely many namespaces without a loop, a tree lies below each that is met. -/
theorem exists_forest (hwithin : ListsWithin listing all) (hroot : root ∈ all)
    (hloop : ¬LeadsToLoop listing root) : ∃ names, Forest listing [root] names := by
  -- on what the listings lead to, which has an end since nothing leads back to itself
  let later : {name // name ∈ all} → {name // name ∈ all} → Prop := fun x y =>
    ReflTransGen (Names listing) root y ∧ TransGen (Names listing) y x
  have htrans : IsTrans _ later := ⟨fun _ _ _ hxy hyz => ⟨hyz.1, hyz.2.trans hxy.2⟩⟩
  have hirrefl : Std.Irrefl later := ⟨fun x hx => hloop ⟨x, hx.1, hx.2⟩⟩
  have hends : WellFounded later := Finite.wellFounded_of_trans_of_irrefl later
  have htrees : ∀ x : {name // name ∈ all}, ReflTransGen (Names listing) root x →
      ∃ names, Forest listing [x.1] names := by
    intro x
    induction x using hends.induction with
    | h x ih =>
      intro hmet
      obtain ⟨items, hitems, hbelow⟩ := hwithin x x.2
      have heach : ∀ name ∈ namespaces items, ∃ names, Forest listing [name] names := by
        intro name hname
        have hnames : Names listing x name := ⟨items, hitems, hname⟩
        exact ih ⟨name, hbelow name hname⟩ ⟨hmet, .single hnames⟩ (hmet.tail hnames)
      obtain ⟨names, hnames⟩ := exists_forest_of_each heach
      exact ⟨_, .cons hitems hnames .nil⟩
  exact htrees ⟨root, hroot⟩ .refl

/-! ## With a loop -/

/-- What leads to a loop names something that leads to it, too. -/
theorem LeadsToLoop.exists_below (h : LeadsToLoop listing name) :
    ∃ below ∈ namespacesIn listing name, LeadsToLoop listing below := by
  have hstep : ∃ below, Names listing name below ∧ LeadsToLoop listing below := by
    obtain ⟨again, hmet, hback⟩ := h
    rcases hmet.cases_head with rfl | ⟨below, hnames, hmet⟩
    · obtain ⟨below, hnames, hmet⟩ := TransGen.head'_iff.1 hback
      exact ⟨below, hnames, name, hmet, hback⟩
    · exact ⟨below, hnames, again, hmet, hback⟩
  obtain ⟨below, ⟨items, hitems, hmem⟩, hloop⟩ := hstep
  refine ⟨below, ?_, hloop⟩
  rw [namespacesIn, hitems]
  exact hmem

/-- Nothing in a finite tree leads to a loop. -/
theorem Forest.not_leadsToLoop {roots names : List String} (h : Forest listing roots names) :
    ∀ name ∈ roots, ¬LeadsToLoop listing name := by
  induction h with
  | nil => simp
  | @cons name items rest below beside hitems _ _ ihbelow ihbeside =>
    intro other hother
    rcases List.mem_cons.1 hother with rfl | hother
    · intro hloop
      obtain ⟨next, hnext, hloop⟩ := hloop.exists_below
      rw [namespacesIn, hitems] at hnext
      exact ihbelow next hnext hloop
    · exact ihbeside other hother

/-- Some of these namespaces leads to a loop, and all of them can be listed. -/
structure Endless (listing : Listing) (all pending : List String) : Prop where
  within : ∀ name ∈ pending, name ∈ all
  loop : ∃ name ∈ pending, LeadsToLoop listing name

/-- A loop stays ahead when a batch is taken off and the namespaces in it are put behind. -/
theorem Endless.step {pending : List String} (h : Endless listing all pending)
    (hwithin : ListsWithin listing all) (atOnce : Nat) :
    Endless listing all
      (pending.drop atOnce ++ (pending.take atOnce).flatMap (namespacesIn listing)) where
  within := by
    intro name hname
    rcases List.mem_append.1 hname with hname | hname
    · exact h.within name (List.mem_of_mem_drop hname)
    · obtain ⟨parent, hparent, hname⟩ := List.mem_flatMap.1 hname
      exact hwithin.namespacesIn_mem (h.within parent (List.mem_of_mem_take hparent)) name hname
  loop := by
    obtain ⟨name, hname, hloop⟩ := h.loop
    rw [← List.take_append_drop atOnce pending] at hname
    rcases List.mem_append.1 hname with hname | hname
    · obtain ⟨below, hbelow, hloop⟩ := hloop.exists_below
      exact ⟨below, List.mem_append_right _ (List.mem_flatMap.2 ⟨name, hname, hbelow⟩), hloop⟩
    · exact ⟨name, List.mem_append_left _ hname, hloop⟩

theorem Endless.ne_nil {pending : List String} (h : Endless listing all pending) :
    pending ≠ [] := by
  obtain ⟨name, hname, -⟩ := h.loop
  exact List.ne_nil_of_mem hname

/-- A batch of namespaces that can be listed holds the namespaces in each of them. -/
theorem gather_ok {batch : List String} (h : ∀ name ∈ batch, ∃ items, listing name = .ok items) :
    Client.gather (batch.map fun name => (name, listing name)) =
      .ok (batch.flatMap (namespacesIn listing), batch.flatMap (modelsIn listing)) := by
  induction batch with
  | nil => rfl
  | cons name batch ih =>
    obtain ⟨items, hitems⟩ := h name (by simp)
    have hrest := ih fun other hother => h other (by simp [hother])
    rw [List.map_cons, Client.gather, hrest, List.flatMap_cons, List.flatMap_cons, namespacesIn,
      modelsIn, hitems]
    rfl

end Discovery

namespace Client

open Discovery

variable {σ : Type} {c : Client σ} {listing : Listing} {asked : σ → List String} {ms : Value}

/-- A walk never ends that has a loop ahead: each batch lists a namespace at least, and the loop is
ahead after it as before. -/
theorem walkNamespaces_endless
    (hserver : ServesNamespaces c.host (namespaceAddress c.config.baseUrl) listing asked)
    (hheaders : c.HasHeaders) (hms : HasInterval ms) {all : List String}
    (hwithin : ListsWithin listing all) {atOnce : Nat} (hatOnce : 1 ≤ atOnce) (budget : Nat)
    {pending : List String} (hpending : Endless listing all pending) (t : Throttle Binary64)
    (s : Session σ) :
    ∃ t' s' sent, c.walkNamespaces ms atOnce budget t pending s =
        (.ok (.error .budgetSpent, t'), s') ∧
      asked s'.outside = sent ++ asked s.outside ∧ budget ≤ sent.length := by
  -- on the batches that are left; that a loop is ahead carries over from one to the next
  induction budget generalizing pending t s with
  | zero =>
    refine ⟨t, s, [], ?_, rfl, Nat.le_refl 0⟩
    cases pending with
    | nil => exact absurd rfl hpending.ne_nil
    | cons name pending => rfl
  | succ budget ih =>
    have hbatch : 1 ≤ (pending.take atOnce).length := by
      have hsome := List.length_pos_iff.2 hpending.ne_nil
      rw [List.length_take]
      omega
    have hlistable : ∀ name ∈ pending.take atOnce, ∃ items, listing name = .ok items := by
      intro name hname
      obtain ⟨items, hitems, -⟩ := hwithin name (hpending.within name (List.mem_of_mem_take hname))
      exact ⟨items, hitems⟩
    obtain ⟨t₁, s₁, hlist, hasked₁⟩ :=
      listBatch_eq hserver hheaders hms (pending.take atOnce) t s
    obtain ⟨t₂, s₂, sent, hrest, hasked₂, hmany⟩ := ih (hpending.step hwithin atOnce) t₁ s₁
    refine ⟨t₂, s₂, sent ++ ((pending.take atOnce).map (namespaceAddress c.config.baseUrl)).reverse,
      ?_, ?_, ?_⟩
    · rw [walkNamespaces_succ hpending.ne_nil hlist, gather_ok hlistable]
      exact Action.bind_of_ok hrest
    · rw [hasked₂, hasked₁, List.append_assoc]
    · rw [List.length_append, List.length_reverse, List.length_map]
      omega

/-- A walk that asks for more with every larger budget comes to no result. -/
theorem not_discovers {root : String} {concurrency : Option Value} {t : Throttle Binary64}
    {s : Session σ}
    (h : ∀ budget, ∃ t' s' sent,
      c.discover budget root concurrency ms t s = (.ok (.error .budgetSpent, t'), s') ∧
        asked s'.outside = sent ++ asked s.outside ∧ budget ≤ sent.length) :
    ¬∃ r, c.Discovers root concurrency ms t s r := by
  rintro ⟨r, n, hresult⟩
  have hmany : ∀ budget, n ≤ budget → budget ≤ (asked r.2.outside).length := by
    intro budget hbudget
    obtain ⟨t', s', sent, hrun, hasked, hsent⟩ := h budget
    rw [hresult budget hbudget] at hrun
    rw [hrun, hasked, List.length_append]
    omega
  have hall := hmany (n + (asked r.2.outside).length + 1) (by omega)
  omega

/-- **Discovery over finitely many namespaces ends exactly where it meets no loop.** If no
namespace that the listings lead to from the root leads back to itself, discovery comes to a list of
models. Otherwise it comes to no result: it has sent at least as many requests as it was given
batches, however many these are, and is not through. -/
theorem discovery_ends_iff_no_loop (c : Client σ) (listing : Listing) (asked : σ → List String)
    (hserver : ServesNamespaces c.host (namespaceAddress c.config.baseUrl) listing asked)
    (hheaders : c.HasHeaders) {all : List String} (hwithin : ListsWithin listing all)
    {root : String} (hroot : root ∈ all) (concurrency : Option Value) {k : Int}
    (hconcurrency : concurrency.getD c.config.discovery.concurrency = .int k) (hk : 1 ≤ k)
    (ms : Value) (hms : HasInterval ms) (t : Throttle Binary64) (s : Session σ) :
    ((∃ r, c.Discovers root concurrency ms t s r) ↔ ¬LeadsToLoop listing root) ∧
    (¬LeadsToLoop listing root →
      ∃ found t' s', c.Discovers root concurrency ms t s (.ok (.ok found, t'), s')) ∧
    (LeadsToLoop listing root → ∀ budget, ∃ t' s' sent,
      c.discover budget root concurrency ms t s = (.ok (.error .budgetSpent, t'), s') ∧
        asked s'.outside = sent ++ asked s.outside ∧ budget ≤ sent.length) := by
  have hatOnce : 1 ≤ k.toNat := by omega
  have hends : ¬LeadsToLoop listing root →
      ∃ found t' s', c.Discovers root concurrency ms t s (.ok (.ok found, t'), s') := by
    intro hloop
    obtain ⟨names, hforest⟩ := exists_forest hwithin hroot hloop
    obtain ⟨listed, found, hwalk, -⟩ := hforest.fifo
    obtain ⟨t', s', hend, -⟩ := walkNamespaces_eq hserver hheaders hms hatOnce hwalk t s
    refine ⟨found, t', s', listed.length, ?_⟩
    intro budget hbudget
    rw [discover_eq hconcurrency hk]
    exact hend budget hbudget
  have hendless : LeadsToLoop listing root → ∀ budget, ∃ t' s' sent,
      c.discover budget root concurrency ms t s = (.ok (.error .budgetSpent, t'), s') ∧
        asked s'.outside = sent ++ asked s.outside ∧ budget ≤ sent.length := by
    intro hloop budget
    rw [discover_eq hconcurrency hk]
    have hahead : Endless listing all [root] :=
      ⟨List.forall_mem_singleton.2 hroot, root, List.mem_singleton_self root, hloop⟩
    exact walkNamespaces_endless hserver hheaders hms hwithin hatOnce budget hahead t s
  refine ⟨⟨?_, ?_⟩, hends, hendless⟩
  · intro hresult hloop
    exact not_discovers (hendless hloop) hresult
  · intro hloop
    obtain ⟨found, t', s', hresult⟩ := hends hloop
    exact ⟨_, hresult⟩

/-! ## A service with a namespace that lists itself -/

open Service

/-- The namespaces `b` and `c` lie in `a`, and `c` also in `b`; `d` names itself. -/
def crossedReply (url : String) : Reply :=
  if url = "https://test.api/a/:ns" then
    page "\x7b\"_data\":[\x7b\"name\":\"b/:ns\"\x7d,\x7b\"name\":\"c/:ns\"\x7d]\x7d"
  else if url = "https://test.api/b/:ns" then
    page "\x7b\"_data\":[\x7b\"name\":\"c/:ns\"\x7d]\x7d"
  else if url = "https://test.api/d/:ns" then
    page "\x7b\"_data\":[\x7b\"name\":\"d/:ns\"\x7d]\x7d"
  else
    page "\x7b\"_data\":[]\x7d"

def crossed : Client (Noted Unit String) :=
  steady crossedReply

def crossedListing : Listing :=
  steadyListing crossedReply

theorem crossedListing_a : crossedListing "a" = .ok [⟨"b", true, .null⟩, ⟨"c", true, .null⟩] :=
  steadyListing_page rfl (readReply_page [.openObject, .scalar (.str "_data"), .colon, .openList,
    .openObject, .scalar (.str "name"), .colon, .scalar (.str "b/:ns"), .closeObject, .comma,
    .openObject, .scalar (.str "name"), .colon, .scalar (.str "c/:ns"), .closeObject, .closeList,
    .closeObject] rfl rfl rfl) rfl

theorem crossedListing_b : crossedListing "b" = .ok [⟨"c", true, .null⟩] :=
  steadyListing_page rfl (readReply_page [.openObject, .scalar (.str "_data"), .colon, .openList,
    .openObject, .scalar (.str "name"), .colon, .scalar (.str "c/:ns"), .closeObject, .closeList,
    .closeObject] rfl rfl rfl) rfl

theorem crossedListing_c : crossedListing "c" = .ok [] :=
  steadyListing_page rfl (readReply_page [.openObject, .scalar (.str "_data"), .colon, .openList,
    .closeList, .closeObject] rfl rfl rfl) rfl

theorem crossedListing_d : crossedListing "d" = .ok [⟨"d", true, .null⟩] :=
  steadyListing_page rfl (readReply_page [.openObject, .scalar (.str "_data"), .colon, .openList,
    .openObject, .scalar (.str "name"), .colon, .scalar (.str "d/:ns"), .closeObject, .closeList,
    .closeObject] rfl rfl rfl) rfl

theorem crossed_listsWithin : ListsWithin crossedListing ["a", "b", "c", "d"] := by
  intro name hname
  simp only [List.mem_cons, List.not_mem_nil, or_false] at hname
  rcases hname with rfl | rfl | rfl | rfl
  · exact ⟨_, crossedListing_a, by decide⟩
  · exact ⟨_, crossedListing_b, by decide⟩
  · exact ⟨_, crossedListing_c, by decide⟩
  · exact ⟨_, crossedListing_d, by decide⟩

theorem crossed_forest : Forest crossedListing ["a"] ["a", "b", "c", "c"] :=
  .cons crossedListing_a
    (.cons crossedListing_b (.cons crossedListing_c .nil .nil) (.cons crossedListing_c .nil .nil))
    .nil

theorem crossed_loop : LeadsToLoop crossedListing "d" :=
  ⟨"d", .refl, .single ⟨_, crossedListing_d, by decide⟩⟩

/-- Below `a` discovery ends, though `c` is named twice; below `d` it does not. -/
theorem crossed_ends_without_loop :
    ServesNamespaces crossed.host (namespaceAddress crossed.config.baseUrl) crossedListing
        Noted.notes ∧
      crossed.HasHeaders ∧ ListsWithin crossedListing ["a", "b", "c", "d"] ∧
      "a" ∈ ["a", "b", "c", "d"] ∧ "d" ∈ ["a", "b", "c", "d"] ∧
      (some (Value.int 3)).getD crossed.config.discovery.concurrency = .int 3 ∧ (1 : Int) ≤ 3 ∧
      HasInterval (.int 0) ∧ ¬LeadsToLoop crossedListing "a" ∧
      (∃ found t' s', crossed.Discovers "a" (some (.int 3)) (.int 0) .idle ⟨⟨(), []⟩, none⟩
        (.ok (.ok found, t'), s')) ∧
      LeadsToLoop crossedListing "d" ∧
      ¬∃ r, crossed.Discovers "d" (some (.int 3)) (.int 0) .idle ⟨⟨(), []⟩, none⟩ r := by
  have hheaders : crossed.HasHeaders := hasHeaders_of_open rfl
  have htree : ¬LeadsToLoop crossedListing "a" := crossed_forest.not_leadsToLoop "a" (by simp)
  have hserves := steady_serves crossedReply
  have hfirst := discovery_ends_iff_no_loop crossed crossedListing Noted.notes hserves
    hheaders crossed_listsWithin (show "a" ∈ _ by decide) (some (.int 3)) rfl (by decide) (.int 0)
    hasInterval_zero .idle ⟨⟨(), []⟩, none⟩
  have hlast := discovery_ends_iff_no_loop crossed crossedListing Noted.notes hserves
    hheaders crossed_listsWithin (show "d" ∈ _ by decide) (some (.int 3)) rfl (by decide) (.int 0)
    hasInterval_zero .idle ⟨⟨(), []⟩, none⟩
  exact ⟨hserves, hheaders, crossed_listsWithin, by decide, by decide, rfl, by decide,
    hasInterval_zero, htree, hfirst.2.1 htree, crossed_loop,
    fun hresult => hlast.1.1 hresult crossed_loop⟩

/-- Among four namespaces that name no others, the one that names itself is walked for ever, one
at a time. -/
theorem self_listing_never_ends :
    ServesNamespaces crossed.host (namespaceAddress crossed.config.baseUrl) crossedListing
        Noted.notes ∧
      ListsWithin crossedListing ["a", "b", "c", "d"] ∧ "d" ∈ ["a", "b", "c", "d"] ∧
      ¬∃ r, crossed.Discovers "d" (some (.int 1)) (.int 0) .idle ⟨⟨(), []⟩, none⟩ r := by
  have hserves := steady_serves crossedReply
  have hendless : ∀ budget, ∃ t' s' sent,
      crossed.discover budget "d" (some (.int 1)) (.int 0) .idle ⟨⟨(), []⟩, none⟩ =
          (.ok (.error .budgetSpent, t'), s') ∧
        s'.outside.notes = sent ++ [] ∧ budget ≤ sent.length := by
    intro budget
    rw [discover_eq (show (some (Value.int 1)).getD _ = .int 1 from rfl) (by decide)]
    exact walkNamespaces_endless hserves (hasHeaders_of_open rfl) hasInterval_zero
      crossed_listsWithin (by decide) budget ⟨by decide, "d", by decide, crossed_loop⟩ _ _
  exact ⟨hserves, crossed_listsWithin, by decide, not_discovers hendless⟩

end Client
end DataPortal
