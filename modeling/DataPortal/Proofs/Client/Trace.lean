import DataPortal.Client.Session
/-!
# What a client did

A world can keep a trace of what a client did: what it asked for and what the reply was, when it
read the clock of tokens, and how long it waited. Every host can be made to keep one.
-/
namespace DataPortal

variable {σ : Type}

/-- Something that a client did. Taking its token out of use needs nothing of the world, so that no
world keeps a trace of it. -/
inductive Deed where
  | asked (r : Request) (reply : Service.Reply)
  | askedToken (r : TokenRequest) (reply : Service.Reply)
  | readClock (ms : Int)
  | waited (seconds : Binary64)
  | cleared

/-- The deed asks for data. -/
def Deed.asksData : Deed → Bool
  | .asked .. => true
  | _ => false

/-- The deed asks for a token. -/
def Deed.asksToken : Deed → Bool
  | .askedToken .. => true
  | _ => false

/-- A world that keeps a trace, in the order in which things were done. -/
structure Host.Traces (h : Host σ) (trace : σ → List Deed) : Prop where
  get : ∀ r w, trace (h.get r w).2 = trace w ++ [.asked r (h.get r w).1]
  post : ∀ r w, trace (h.post r w).2 = trace w ++ [.askedToken r (h.post r w).1]
  clock : ∀ w, trace (h.clock w).2 = trace w ++ [.readClock (h.clock w).1]
  stopwatch : ∀ w, trace (h.stopwatch w).2 = trace w
  sleep : ∀ x w, trace (h.sleep x w) = trace w ++ [.waited x]
  connection : ∀ e w, trace (h.connection e w) = trace w

/-- A world and what was done there. -/
structure Traced (σ : Type) where
  world : σ
  deeds : List Deed

/-- Any host, with a trace kept of what is done. -/
def Host.tracing (h : Host σ) : Host (Traced σ) where
  get r w := ((h.get r w.world).1, ⟨(h.get r w.world).2, w.deeds ++ [.asked r (h.get r w.world).1]⟩)
  post r w :=
    ((h.post r w.world).1, ⟨(h.post r w.world).2, w.deeds ++ [.askedToken r (h.post r w.world).1]⟩)
  clock w :=
    ((h.clock w.world).1, ⟨(h.clock w.world).2, w.deeds ++ [.readClock (h.clock w.world).1]⟩)
  stopwatch w := ((h.stopwatch w.world).1, ⟨(h.stopwatch w.world).2, w.deeds⟩)
  sleep x w := ⟨h.sleep x w.world, w.deeds ++ [.waited x]⟩
  connection e w := ⟨h.connection e w.world, w.deeds⟩

theorem Host.traces_tracing (h : Host σ) : h.tracing.Traces Traced.deeds where
  get _ _ := rfl
  post _ _ := rfl
  clock _ := rfl
  stopwatch _ := rfl
  sleep _ _ := rfl
  connection _ _ := rfl

end DataPortal
