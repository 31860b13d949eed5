import DataPortal.Client.Basic
import DataPortal.Proofs.Client.Action
/-!
# What a request does to the world

Before a request for data is sent, a token may have to be asked for. What all of that keeps to
(`Keeps`) holds up to the moment at which the request is sent. To tell which requests were sent,
and what the world was like then, a world can hold notes of them (`Notes`).
-/
namespace DataPortal

variable {σ ν α β : Type} {R S : σ → σ → Prop}

/-- A relation between worlds, before and after, that everything but a request for data keeps
to. -/
structure Host.Keeps (h : Host σ) (R : σ → σ → Prop) : Prop where
  refl : ∀ w, R w w
  trans : ∀ {u v w}, R u v → R v w → R u w
  post : ∀ r w, R w (h.post r w).2
  clock : ∀ w, R w (h.clock w).2
  stopwatch : ∀ w, R w (h.stopwatch w).2
  sleep : ∀ x w, R w (h.sleep x w)
  connection : ∀ e w, R w (h.connection e w)

theorem Host.Keeps.and {h : Host σ} (hr : h.Keeps R) (hs : h.Keeps S) :
    h.Keeps fun w w' => R w w' ∧ S w w' where
  refl w := ⟨hr.refl w, hs.refl w⟩
  trans huv hvw := ⟨hr.trans huv.1 hvw.1, hs.trans huv.2 hvw.2⟩
  post r w := ⟨hr.post r w, hs.post r w⟩
  clock w := ⟨hr.clock w, hs.clock w⟩
  stopwatch w := ⟨hr.stopwatch w, hs.stopwatch w⟩
  sleep x w := ⟨hr.sleep x w, hs.sleep x w⟩
  connection e w := ⟨hr.connection e w, hs.connection e w⟩

/-! ## Actions that send no request for data -/

namespace Action

/-- What an action does to the world keeps to a relation, whether it fails or not. -/
def Keeps (R : σ → σ → Prop) (a : Action σ α) : Prop :=
  ∀ s, R s.outside (a s).2.outside

variable {h : Host σ}

theorem keeps_pure (hr : h.Keeps R) (x : α) : Keeps R (pure x) :=
  fun s => hr.refl s.outside

theorem keeps_settle (hr : h.Keeps R) (r : Except Failure α) : Keeps R (settle r) :=
  fun s => hr.refl s.outside

theorem keeps_token (hr : h.Keeps R) : Keeps R token :=
  fun s => hr.refl s.outside

theorem keeps_setToken (hr : h.Keeps R) (t : Option AccessToken) : Keeps R (setToken t) :=
  fun s => hr.refl s.outside

theorem keeps_ask {f : σ → α × σ} (hf : ∀ w, R w (f w).2) : Keeps R (ask f) :=
  fun s => hf s.outside

theorem keeps_tell {f : σ → σ} (hf : ∀ w, R w (f w)) : Keeps R (tell f) :=
  fun s => hf s.outside

theorem Keeps.bind (hr : h.Keeps R) {a : Action σ α} {f : α → Action σ β} (ha : Keeps R a)
    (hf : ∀ x, Keeps R (f x)) : Keeps R (a >>= f) := by
  intro s
  have hfirst := ha s
  cases hrun : a s with
  | mk r s' =>
    rw [hrun] at hfirst
    cases r with
    | error e =>
      rw [bind_of_error hrun]
      exact hfirst
    | ok x =>
      rw [bind_of_ok hrun]
      exact hr.trans hfirst (hf x s')

end Action

open DataPortal.Action

namespace Credentials

variable {host : Host σ}

theorem keeps_isValid (hr : host.Keeps R) : Keeps R (isValid host) := by
  refine Keeps.bind hr (keeps_token hr) ?_
  intro t
  cases t with
  | none => exact keeps_pure hr false
  | some t => exact Keeps.bind hr (keeps_ask hr.clock) fun now => keeps_pure hr _

theorem keeps_send (hr : host.Keeps R) (c : Credentials) (r : TokenRequest) :
    Keeps R (c.send host r) := by
  rw [send]
  cases c.ownConnection with
  | none => exact keeps_ask (hr.post r)
  | some timeout =>
    refine Keeps.bind hr (keeps_settle hr _) fun seconds => ?_
    refine Keeps.bind hr (keeps_tell (hr.connection _)) fun _ => ?_
    refine Keeps.bind hr (keeps_tell (hr.connection _)) fun _ => ?_
    refine Keeps.bind hr (keeps_ask (hr.post r)) fun reply => ?_
    exact Keeps.bind hr (keeps_tell (hr.connection _)) fun _ => keeps_pure hr reply

theorem keeps_refresh (hr : host.Keeps R) (c : Credentials) : Keeps R (c.refresh host) := by
  refine Keeps.bind hr (keeps_settle hr _) fun r => ?_
  refine Keeps.bind hr (keeps_send hr c r) fun reply => ?_
  refine Keeps.bind hr (keeps_settle hr _) fun grant => ?_
  exact Keeps.bind hr (keeps_ask hr.clock) fun now => keeps_setToken hr _

theorem keeps_obtain (hr : host.Keeps R) (c : Credentials) : Keeps R (c.obtain host) := by
  have huse : Keeps R (do settle (tokenText (← token)) : Action σ String) :=
    Keeps.bind hr (keeps_token hr) fun t => keeps_settle hr _
  refine Keeps.bind hr (keeps_isValid hr) fun valid => ?_
  cases valid with
  | true => exact huse
  | false => exact Keeps.bind hr (keeps_refresh hr c) fun _ => huse

end Credentials

namespace Client

variable {c : Client σ}

theorem keeps_headers (hr : c.host.Keeps R) : Keeps R c.headers := by
  rw [headers]
  cases c.credentials with
  | none => exact keeps_pure hr _
  | some credentials =>
    exact Keeps.bind hr (Credentials.keeps_obtain hr credentials) fun t => keeps_pure hr _

/-! ## Requests for data -/

/-- A client without credentials needs no token. -/
theorem headers_of_open (h : c.credentials = none) (s : Session σ) :
    c.headers s = (.ok [("Accept", "application/json")], s) := by
  rw [headers, h]
  rfl

/-- Once there are headers the request is sent, and the fetch comes to what its reply is read
as. -/
theorem fetch_of_headers {fields : List (String × String)} {s s' : Session σ} {path : String}
    {query : List Char} {reply : Service.Reply} {world : σ}
    (hheaders : c.headers s = (.ok fields, s'))
    (hget : c.host.get ⟨c.config.baseUrl ++ path ++ String.ofList query, fields⟩ s'.outside =
      (reply, world)) :
    c.fetch path query s = (readReply reply, ⟨world, s'.token⟩) := by
  have hask : Action.ask
      (c.host.get ⟨c.config.baseUrl ++ path ++ String.ofList query, fields⟩) s' =
      (.ok reply, ⟨world, s'.token⟩) := by
    rw [Action.ask, hget]
  rw [fetch, bind_of_ok hheaders]
  exact bind_of_ok hask

/-- A client that is never refused a token, and so has headers for every request. -/
def HasHeaders (c : Client σ) : Prop :=
  ∀ s, ∃ headers s', c.headers s = (.ok headers, s')

theorem hasHeaders_of_open (h : c.credentials = none) : c.HasHeaders :=
  fun s => ⟨_, s, headers_of_open h s⟩

/-- A client without credentials, with the standard limits. -/
def plain (base : String) (host : Host σ) : Client σ :=
  ⟨⟨base, base, .null, .null, .null, .int 30, .standard, .standard⟩, host, none, false⟩

/-- A fetch sends one request, and what it comes to is what the reply is read as. -/
theorem fetch_eq (hr : c.host.Keeps R) (hheaders : c.HasHeaders) (path : String)
    (query : List Char) (s : Session σ) :
    ∃ r w token, r.url = c.config.baseUrl ++ path ++ String.ofList query ∧ R s.outside w ∧
      c.fetch path query s = (readReply (c.host.get r w).1, ⟨(c.host.get r w).2, token⟩) := by
  obtain ⟨headers, s', hrun⟩ := hheaders s
  have hkept := keeps_headers hr s
  rw [hrun] at hkept
  refine ⟨⟨c.config.baseUrl ++ path ++ String.ofList query, headers⟩, s'.outside, s'.token, rfl,
    hkept, ?_⟩
  exact fetch_of_headers hrun rfl

end Client

/-! ## Notes of requests -/

/-- A world that holds a note of each request for data, newest first, and of nothing else. -/
structure Host.Notes (h : Host σ) (note : Request → σ → ν) (noted : σ → List ν) : Prop where
  get : ∀ r w, noted (h.get r w).2 = note r w :: noted w
  keeps : h.Keeps fun w w' => noted w' = noted w

/-- A world and the notes of the requests that were sent there. -/
structure Noted (σ ν : Type) where
  world : σ
  notes : List ν

/-- Any host, with notes taken of the requests. -/
def Host.noting (h : Host σ) (note : Request → σ → ν) : Host (Noted σ ν) where
  get r w := ((h.get r w.world).1, ⟨(h.get r w.world).2, note r w.world :: w.notes⟩)
  post r w := ((h.post r w.world).1, ⟨(h.post r w.world).2, w.notes⟩)
  clock w := ((h.clock w.world).1, ⟨(h.clock w.world).2, w.notes⟩)
  stopwatch w := ((h.stopwatch w.world).1, ⟨(h.stopwatch w.world).2, w.notes⟩)
  sleep x w := ⟨h.sleep x w.world, w.notes⟩
  connection e w := ⟨h.connection e w.world, w.notes⟩

theorem Host.notes_noting (h : Host σ) (note : Request → σ → ν) :
    (h.noting note).Notes (fun r w => note r w.world) Noted.notes where
  get _ _ := rfl
  keeps :=
    { refl := fun _ => rfl
      trans := fun huv hvw => hvw.trans huv
      post := fun _ _ => rfl
      clock := fun _ => rfl
      stopwatch := fun _ => rfl
      sleep := fun _ _ => rfl
      connection := fun _ _ => rfl }

/-- Notes do not change what a host keeps to. -/
theorem Host.Keeps.noting {h : Host σ} (hr : h.Keeps R) (note : Request → σ → ν) :
    (h.noting note).Keeps fun w w' => R w.world w'.world where
  refl w := hr.refl w.world
  trans := hr.trans
  post r w := hr.post r w.world
  clock w := hr.clock w.world
  stopwatch w := hr.stopwatch w.world
  sleep x w := hr.sleep x w.world
  connection e w := hr.connection e w.world

/-! ## Hosts that only answer -/

/-- A host that answers requests for data and grants no tokens, with clocks that stand still. -/
def Host.answering (get : Request → σ → Service.Reply × σ) : Host σ where
  get := get
  post _ w := (.unreachable "no tokens", w)
  clock w := (0, w)
  stopwatch w := (0, w)
  sleep _ w := w
  connection _ w := w

/-- Nothing but a request for data changes its world. -/
theorem Host.keeps_answering (get : Request → σ → Service.Reply × σ) (refl : ∀ w, R w w)
    (trans : ∀ {u v w}, R u v → R v w → R u w) : (Host.answering get).Keeps R where
  refl := refl
  trans := trans
  post _ w := refl w
  clock w := refl w
  stopwatch w := refl w
  sleep _ w := refl w
  connection _ w := refl w

end DataPortal
