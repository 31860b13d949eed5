import DataPortal.Proofs.Throttle.Schedule
import Mathlib.Data.List.Basic
import Mathlib.Data.List.Induction
import Mathlib.Data.List.Nodup
import Mathlib.Logic.Function.Basic
import Mathlib.Logic.Relation
/-!
# Callers at a throttle

Any number of callers share a throttle. Each of them takes the lock, reads the clock, takes the
first free start and gives the lock back; then it waits for its start without the lock. Their
steps may come in any order, and every reading may show anything. Since only one caller is inside
the lock at a time, the turns are taken in the order in which the callers took the lock
(`Sound`), so the starts are the least legal schedule for the readings in that order.
-/
namespace DataPortal.Throttle

open Function

variable {ι τ : Type}

/-- Where a call stands. -/
inductive Call (τ : Type) where
  | arrived
  | inside
  | read (now : τ)
  | reserved (turn : Turn τ)
  /-- The caller goes on, after it has waited for its start if that lay ahead. -/
  | started (turn : Turn τ) (slept : Option τ)
  deriving DecidableEq, Repr

/-- The turn that a call has taken. -/
def Call.turn? : Call τ → Option (Turn τ)
  | .reserved turn | .started turn _ => some turn
  | _ => none

/-- Callers at a throttle: who holds the lock, and who has ever taken it, in that order. -/
structure Callers (ι τ : Type) where
  throttle : Throttle τ
  holder : Option ι
  order : List ι
  call : ι → Call τ

/-- Where a function has values on the first part of a list and none on the rest, its values are in
the places of their arguments. -/
theorem getElem?_filterMap {α β : Type} {f : α → Option β} {l m : List α}
    (hl : ∀ a ∈ l, (f a).isSome = true) (hm : ∀ a ∈ m, f a = none) (n : ℕ) :
    ((l ++ m).filterMap f)[n]? = (l ++ m)[n]?.bind f := by
  induction l generalizing n with
  | nil =>
    have hnone : m.filterMap f = [] := List.filterMap_eq_nil_iff.2 hm
    rw [List.nil_append, hnone]
    cases hn : m[n]? with
    | none => rfl
    | some a => exact (hm a (List.mem_of_getElem? hn)).symm
  | cons a l ih =>
    obtain ⟨b, hb⟩ := Option.isSome_iff_exists.1 (hl a (by simp))
    rw [List.cons_append, List.filterMap_cons_some hb]
    cases n with
    | zero => exact hb.symm
    | succ n => exact ih (fun c hc => hl c (by simp [hc])) n

namespace Callers

/-- Nobody has taken the lock yet. -/
def gathered : Callers ι τ :=
  ⟨idle, none, [], fun _ => .arrived⟩

/-- The turns that have been taken, in the order in which the callers took the lock. -/
def turns (s : Callers ι τ) : List (Turn τ) :=
  s.order.filterMap fun i => (s.call i).turn?

/-! ## Where calls stand -/

section Standing

variable [Add τ] [LT τ] [DecidableLT τ] [Sub τ] [OfNat τ 0] {interval : τ} {s : Callers ι τ}

/-- Whether a call may stand somewhere, from who holds the lock and who has ever taken it. -/
def Fits (s : Callers ι τ) (i : ι) : Call τ → Prop
  | .arrived => i ∉ s.order
  | .inside | .read _ => s.holder = some i
  | .reserved _ => i ∈ s.order ∧ s.holder ≠ some i
  | .started turn slept =>
    i ∈ s.order ∧ s.holder ≠ some i ∧ slept = wait? turn.start turn.now

/-- The turns were taken one after the other in the order in which the callers took the lock, and
only the caller that holds it has yet to take its own. -/
structure Sound (interval : τ) (s : Callers ι τ) : Prop where
  taken : Taken interval s.turns s.throttle
  nodup : s.order.Nodup
  last : ∃ before, s.order = before ++ s.holder.toList
  fits : ∀ i, s.Fits i (s.call i)

theorem sound_gathered : Sound interval (gathered : Callers ι τ) where
  taken := .idle
  nodup := .nil
  last := ⟨[], rfl⟩
  fits i := by simp [gathered, Fits]

theorem Sound.arrived (h : Sound interval s) {i : ι} (hi : i ∉ s.order) :
    s.call i = .arrived := by
  obtain ⟨before, horder⟩ := h.last
  have hfits := h.fits i
  cases hcall : s.call i <;> simp_all [Fits]

theorem Sound.mem_order (h : Sound interval s) {i : ι} (hi : (s.call i).turn?.isSome = true) :
    i ∈ s.order := by
  have hfits := h.fits i
  cases hcall : s.call i <;> simp_all [Fits, Call.turn?]

/-- In the order in which the callers took the lock each has its turn in its place, but for the
one that holds it. -/
theorem Sound.getElem?_turns (h : Sound interval s) (n : ℕ) :
    s.turns[n]? = s.order[n]?.bind fun i => (s.call i).turn? := by
  obtain ⟨before, horder⟩ := h.last
  have hnodup := h.nodup
  rw [horder, List.nodup_append] at hnodup
  rw [turns, horder]
  refine getElem?_filterMap (fun i hi => ?_) (fun i hi => ?_) n
  · have hout : s.holder ≠ some i := by
      intro hholder
      exact hnodup.2.2 i hi i (by simp [hholder]) rfl
    have hfits := h.fits i
    cases hcall : s.call i <;> simp_all [Fits, Call.turn?]
  · have hfits := h.fits i
    cases hcall : s.call i <;> simp_all [Fits, Call.turn?]

end Standing

/-! ## The steps -/

variable [DecidableEq ι]

/-- A call comes to stand elsewhere. -/
def put (s : Callers ι τ) (i : ι) (c : Call τ) : Callers ι τ :=
  { s with call := update s.call i c }

theorem call_put_self (s : Callers ι τ) (i : ι) (c : Call τ) : (s.put i c).call i = c :=
  update_self ..

theorem call_put_of_ne (s : Callers ι τ) {i k : ι} (h : k ≠ i) (c : Call τ) :
    (s.put i c).call k = s.call k :=
  update_of_ne h ..

theorem forall_put {s : Callers ι τ} {P : ι → Call τ → Prop} {i : ι} {c : Call τ} :
    (∀ k, P k ((s.put i c).call k)) ↔ P i c ∧ ∀ k, k ≠ i → P k (s.call k) :=
  forall_update_iff s.call P

/-- A call that comes to stand elsewhere has the turn that it had, or had none. -/
theorem turns_put {s : Callers ι τ} {i : ι} {c : Call τ} (h : c.turn? = (s.call i).turn?) :
    (s.put i c).turns = s.turns := by
  have hturn : ∀ k, ((s.put i c).call k).turn? = (s.call k).turn? :=
    (forall_put (P := fun k d => d.turn? = (s.call k).turn?)).2 ⟨h, fun _ _ => rfl⟩
  have horder : (s.put i c).order = s.order := rfl
  simp only [turns, hturn, horder]

/-- A caller takes the lock. -/
def enter (s : Callers ι τ) (i : ι) : Callers ι τ where
  throttle := s.throttle
  holder := some i
  order := s.order ++ [i]
  call := (s.put i .inside).call

/-- A caller that takes the lock has no turn yet. -/
theorem turns_enter {s : Callers ι τ} {i : ι} (hi : s.call i = .arrived) :
    (s.enter i).turns = s.turns := by
  have hturn : Call.inside.turn? = (s.call i).turn? := by rw [hi]; rfl
  rw [turns, enter, List.filterMap_append, ← turns_put hturn]
  simp [turns, put, Call.turn?]

variable [Add τ] [LT τ] [DecidableLT τ]

/-- A caller that has read the clock takes the first free start and gives the lock back. -/
def reserve (s : Callers ι τ) (interval : τ) (i : ι) (now : τ) : Callers ι τ where
  throttle := s.throttle.reserve interval now
  holder := none
  order := s.order
  call := (s.put i (.reserved ⟨now, s.throttle.nextStart interval now⟩)).call

/-- The turn of the caller that took the lock last is the last one. -/
theorem turns_reserve {interval : τ} {s : Callers ι τ} {i : ι} {now : τ} {before : List ι}
    (horder : s.order = before ++ [i]) (hnew : i ∉ before) (hi : s.call i = .read now) :
    (s.reserve interval i now).turns = s.turns ++ [⟨now, s.throttle.nextStart interval now⟩] := by
  have hcalls : (before.filterMap fun k => ((s.reserve interval i now).call k).turn?) =
      before.filterMap fun k => (s.call k).turn? := by
    refine List.filterMap_congr fun k hk => ?_
    rw [reserve, call_put_of_ne s (ne_of_mem_of_not_mem hk hnew)]
  have hturns : s.turns = before.filterMap fun k => (s.call k).turn? := by
    simp [turns, horder, hi, Call.turn?]
  have horder' : (s.reserve interval i now).order = before ++ [i] := horder
  rw [turns, horder', List.filterMap_append, hcalls, ← hturns]
  simp [reserve, call_put_self, Call.turn?]

/-- A caller goes into the lock and comes out of it with its turn. -/
def through (s : Callers ι τ) (interval : τ) (i : ι) (now : τ) : Callers ι τ :=
  ((s.enter i).put i (.read now)).reserve interval i now

theorem turns_through {interval : τ} {s : Callers ι τ} {i : ι} (hi : s.call i = .arrived)
    (hnew : i ∉ s.order) (now : τ) :
    (s.through interval i now).turns =
      s.turns ++ [⟨now, s.throttle.nextStart interval now⟩] := by
  have hinside : (s.enter i).call i = .inside := call_put_self ..
  have hread : ((s.enter i).put i (.read now)).call i = .read now := call_put_self ..
  have hturn : (Call.read now).turn? = ((s.enter i).call i).turn? := by rw [hinside]; rfl
  rw [through, turns_reserve rfl hnew hread, turns_put hturn, turns_enter hi]
  rfl

variable [Sub τ] [OfNat τ 0]

/-- One step of one caller. -/
inductive Step (interval : τ) : Callers ι τ → Callers ι τ → Prop where
  | enter {s : Callers ι τ} {i : ι} : s.call i = .arrived → s.holder = none →
      Step interval s (s.enter i)
  | read {s : Callers ι τ} {i : ι} (now : τ) : s.call i = .inside →
      Step interval s (s.put i (.read now))
  | reserve {s : Callers ι τ} {i : ι} {now : τ} : s.call i = .read now →
      Step interval s (s.reserve interval i now)
  | start {s : Callers ι τ} {i : ι} {turn : Turn τ} : s.call i = .reserved turn →
      Step interval s (s.put i (.started turn (wait? turn.start turn.now)))

/-- What callers can come to from when they have gathered. -/
def Reachable (interval : τ) : Callers ι τ → Prop :=
  Relation.ReflTransGen (Step interval) gathered

/-! ## What each step keeps -/

variable {interval : τ} {s s' : Callers ι τ}

/-- A step that leaves the lock and the turns alone. -/
theorem Sound.put (h : Sound interval s) {i : ι} {c : Call τ}
    (hturn : c.turn? = (s.call i).turn?) (hc : s.Fits i c) : Sound interval (s.put i c) where
  taken := by
    rw [turns_put hturn]
    exact h.taken
  nodup := h.nodup
  last := h.last
  fits := forall_put.2 ⟨hc, fun k _ => h.fits k⟩

theorem Sound.enter (h : Sound interval s) {i : ι} (hi : s.call i = .arrived)
    (hfree : s.holder = none) : Sound interval (s.enter i) where
  taken := by
    rw [turns_enter hi]
    exact h.taken
  nodup := by
    have hfits := h.fits i
    rw [hi] at hfits
    rw [Callers.enter, ← List.concat_eq_append]
    exact h.nodup.concat hfits
  last := ⟨s.order, rfl⟩
  fits := by
    refine forall_put.2 ⟨rfl, fun k hk => ?_⟩
    have hfits := h.fits k
    cases hcall : s.call k <;> simp_all [Fits, Callers.enter, Ne.symm hk]

theorem Sound.reserve (h : Sound interval s) {i : ι} {now : τ} (hi : s.call i = .read now) :
    Sound interval (s.reserve interval i now) := by
  have hholder : s.holder = some i := by
    have hfits := h.fits i
    rwa [hi] at hfits
  obtain ⟨before, horder⟩ := h.last
  rw [hholder, Option.toList_some] at horder
  have hnew : i ∉ before := by
    have hnodup := h.nodup
    rw [horder, List.nodup_append] at hnodup
    exact fun hmem => hnodup.2.2 i hmem i (List.mem_singleton_self i) rfl
  exact {
    taken := by
      rw [turns_reserve horder hnew hi]
      exact h.taken.turn now
    nodup := h.nodup
    last := ⟨s.order, (List.append_nil _).symm⟩
    fits := by
      refine forall_put.2 ⟨?_, fun k hk => ?_⟩
      · simp [Fits, Callers.reserve, horder]
      · have hfits := h.fits k
        cases hcall : s.call k <;> simp_all [Fits, Callers.reserve, Ne.symm hk] }

theorem Sound.step (h : Sound interval s) (hstep : Step interval s s') : Sound interval s' := by
  cases hstep with
  | enter hi hfree => exact h.enter hi hfree
  | @read i now hi =>
    have hfits := h.fits i
    rw [hi] at hfits
    exact h.put (by rw [hi]; rfl) hfits
  | reserve hi => exact h.reserve hi
  | @start i turn hi =>
    have hfits := h.fits i
    rw [hi] at hfits
    exact h.put (by rw [hi]; rfl) ⟨hfits.1, hfits.2, rfl⟩

theorem Reachable.sound (h : Reachable interval s) : Sound interval s := by
  induction h with
  | refl => exact sound_gathered
  | tail _ hstep ih => exact ih.step hstep

/-! ## Every order and every reading -/

/-- From when nobody holds the lock, a caller that has yet to take it can go through. -/
theorem Reachable.through (h : Reachable interval s) (hfree : s.holder = none) {i : ι}
    (hi : s.call i = .arrived) (now : τ) : Reachable interval (s.through interval i now) := by
  have henter := Relation.ReflTransGen.tail h (Step.enter hi hfree)
  have hread := henter.tail (Step.read now (call_put_self s i .inside))
  exact hread.tail (Step.reserve (call_put_self _ i (.read now)))

/-- Callers can take the lock in any order, with any readings of the clock. -/
theorem exists_run (interval : τ) (calls : List (ι × τ)) (h : (calls.map Prod.fst).Nodup) :
    ∃ s : Callers ι τ, Reachable interval s ∧ s.holder = none ∧
      s.order = calls.map Prod.fst ∧ s.turns.map Turn.now = calls.map Prod.snd := by
  induction calls using List.reverseRecOn with
  | nil => exact ⟨gathered, .refl, rfl, rfl, rfl⟩
  | append_singleton calls call ih =>
    rw [List.map_append, List.map_singleton, List.nodup_append] at h
    obtain ⟨s, hs, hfree, horder, hnows⟩ := ih h.1
    have hnew : call.1 ∉ s.order := by
      intro hmem
      exact h.2.2 _ (horder ▸ hmem) _ (List.mem_singleton_self _) rfl
    have hi := hs.sound.arrived hnew
    refine ⟨_, hs.through hfree hi call.2, rfl, ?_, ?_⟩
    · rw [List.map_append, ← horder]
      rfl
    · rw [turns_through hi hnew, List.map_append, List.map_append, hnows]
      rfl

/-! ## The schedule of the callers -/

theorem wait?_eq (start now : ℚ) :
    wait? start now = if now < start then some (start - now) else none := by
  simp only [wait?, sub_pos]

/-- **The callers are on the least legal schedule**, in whatever order they take the lock and
whatever the clock shows: the `n`-th of them has the `n`-th turn, waits until its start if that
lies ahead, and is counted. Every order and all readings do occur. -/
theorem callers_on_least_schedule (interval : ℚ) :
    (∀ s : Callers ι ℚ, Reachable interval s →
      s.order.Nodup ∧ (∀ i, (s.call i).turn?.isSome = true → i ∈ s.order) ∧
      (∀ n : ℕ, s.turns[n]? = s.order[n]?.bind fun i => (s.call i).turn?) ∧
      LeastSchedule interval s.turns ∧
      (∀ i turn slept, s.call i = .started turn slept →
        slept = if turn.now < turn.start then some (turn.start - turn.now) else none) ∧
      s.throttle.requests = s.turns.length ∧
      s.throttle.delayed = s.turns.countP fun turn => turn.now < turn.start) ∧
    ∀ calls : List (ι × ℚ), (calls.map Prod.fst).Nodup →
      ∃ s : Callers ι ℚ, Reachable interval s ∧ s.holder = none ∧
        s.order = calls.map Prod.fst ∧ s.turns.map Turn.now = calls.map Prod.snd := by
  refine ⟨fun s h => ?_, exists_run interval⟩
  have hsound := h.sound
  refine ⟨hsound.nodup, fun i hi => hsound.mem_order hi, hsound.getElem?_turns,
    hsound.taken.leastSchedule, fun i turn slept hi => ?_, hsound.taken.requests,
    hsound.taken.delayed⟩
  have hfits := hsound.fits i
  rw [hi] at hfits
  rw [hfits.2.2, wait?_eq]

/-- Three callers, the last of whom reads a clock that went back and has waited before the second
one has. -/
theorem backwards_on_least_schedule :
    ∃ s : Callers (Fin 3) ℚ, Reachable (1 / 20) s ∧ s.order = [2, 0, 1] ∧
      s.turns = [⟨0, 0⟩, ⟨0, 1 / 20⟩, ⟨-1, 1 / 10⟩] ∧
      s.call 0 = .reserved ⟨0, 1 / 20⟩ ∧
      s.call 1 = .started ⟨-1, 1 / 10⟩ (some (11 / 10)) ∧
      LeastSchedule (1 / 20) s.turns := by
  have hfirst : Reachable (1 / 20) (gathered.through (1 / 20) (2 : Fin 3) (0 : ℚ)) :=
    Reachable.through .refl rfl rfl 0
  have hsecond := hfirst.through (i := 0) rfl rfl 0
  have hthird := hsecond.through (i := 1) rfl rfl (-1)
  have hstarted := hthird.tail (Step.start (i := 1) rfl)
  have hleast := ((callers_on_least_schedule (1 / 20)).1 _ hstarted).2.2.2.1
  exact ⟨_, hstarted, by rfl, by decide +kernel, by decide +kernel, by decide +kernel, hleast⟩

end Callers
end DataPortal.Throttle
