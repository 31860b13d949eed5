import DataPortal.Client.Paging
import DataPortal.Proofs.Client.Refreshing
import DataPortal.Proofs.Service.Reading
import Mathlib.Data.List.Basic
import Mathlib.Data.List.Induction
/-!
# The tokens that are shown

Over any run of calls, clears and requests for data, the token in use is the one that was granted
last, if none was cleared since (`Held`), and every request shows that token while it is good for
more than five minutes, or right after it was granted (`Shows`). Each call and each request leaves
that so, and a clear does; hence every run does.
-/
namespace DataPortal

open Credentials Service

/-! ## The token after some deeds -/

/-- The deed neither brings a token into use nor takes it out of use. -/
def Deed.IsQuiet : Deed → Prop
  | .cleared => False
  | .askedToken _ reply => ∀ g, ¬Grants reply g
  | _ => True

/-- The token that was granted last, and not cleared since. It is good for its seconds from the
moment at which the clock was read after the grant. -/
def Latest (history : List Deed) (t : AccessToken) : Prop :=
  ∃ before r reply g now after,
    history = before ++ .askedToken r reply :: .readClock now :: after ∧ Grants reply g ∧
      t = ⟨g.token, now + g.expiresIn * 1000⟩ ∧ ∀ d ∈ after, d.IsQuiet

/-- The token in use after some deeds; without one, nothing was granted since the start or since a
clear. -/
def Held (history : List Deed) : Option AccessToken → Prop
  | some t => Latest history t
  | none => ∃ before after, history = before ++ after ∧ (∀ d ∈ after, d.IsQuiet) ∧
      (before = [] ∨ ∃ earlier, before = earlier ++ [.cleared])

/-- A token as a call with some deeds may give it: it was granted before, and the clock that the
call read leaves it more than five minutes; or this call was granted it. -/
inductive Shown (earlier deeds : List Deed) (t : AccessToken) : Prop
  | kept {now : Int} : deeds = [.readClock now] → Latest earlier t → now < t.expiresAt - 300000 →
      Shown earlier deeds t
  | renewed {looked : List Deed} {r : TokenRequest} {reply : Reply} {g : TokenGrant} {now : Int} :
      deeds = looked ++ [.askedToken r reply, .readClock now] → Grants reply g →
      t = ⟨g.token, now + g.expiresIn * 1000⟩ → Shown earlier deeds t

/-- Every request for data shows the token that was granted last, as the call before it gives it. -/
def Shows (history : List Deed) : Prop :=
  ∀ before r reply, before ++ [.asked r reply] <+: history →
    ∃ earlier deeds t, before = earlier ++ deeds ∧ Shown earlier deeds t ∧ Latest before t ∧
      r.headers = [("Accept", "application/json"), ("Authorization", "Bearer " ++ t.text)]

variable {history deeds : List Deed} {held after : Option AccessToken} {t : AccessToken}

theorem Latest.append (h : Latest history t) (hquiet : ∀ d ∈ deeds, d.IsQuiet) :
    Latest (history ++ deeds) t := by
  obtain ⟨before, r, reply, g, now, later, rfl, hgrants, ht, hlater⟩ := h
  refine ⟨before, r, reply, g, now, later ++ deeds, by simp, hgrants, ht, ?_⟩
  intro d hd
  exact (List.mem_append.1 hd).elim (hlater d) (hquiet d)

theorem latest_granted (history : List Deed) {r : TokenRequest} {reply : Reply} {g : TokenGrant}
    (hgrants : Grants reply g) (now : Int) :
    Latest (history ++ [.askedToken r reply, .readClock now]) (granted g now) :=
  ⟨history, r, reply, g, now, [], rfl, hgrants, rfl, by simp⟩

theorem Held.append (h : Held history held) (hquiet : ∀ d ∈ deeds, d.IsQuiet) :
    Held (history ++ deeds) held := by
  cases held with
  | some t => exact Latest.append h hquiet
  | none =>
    obtain ⟨before, later, rfl, hlater, hstart⟩ := h
    refine ⟨before, later ++ deeds, by simp, ?_, hstart⟩
    intro d hd
    exact (List.mem_append.1 hd).elim (hlater d) (hquiet d)

theorem held_cleared (history : List Deed) : Held (history ++ [.cleared]) none :=
  ⟨history ++ [.cleared], [], by simp, by simp, .inr ⟨history, rfl⟩⟩

theorem Shows.append (h : Shows history) (hnone : ∀ r reply, .asked r reply ∉ deeds) :
    Shows (history ++ deeds) := by
  -- on the deeds, from the last one on
  induction deeds using List.reverseRecOn with
  | nil => rwa [List.append_nil]
  | append_singleton deeds d ih =>
    intro before r reply hprefix
    rw [← List.append_assoc, List.prefix_concat_iff] at hprefix
    rcases hprefix with hlast | hprefix
    · have hd : d = .asked r reply := by
        have := congrArg List.getLast? hlast
        simpa using this.symm
      exact absurd (by simp [hd]) (hnone r reply)
    · exact ih (fun r reply hmem => hnone r reply (by simp [hmem])) before r reply hprefix

theorem Shows.append_asked (h : Shows history) {r : Request} {reply : Reply}
    {earlier : List Deed} (hhistory : history = earlier ++ deeds) (hshown : Shown earlier deeds t)
    (hlatest : Latest history t) (hheaders : r.headers = Client.bearing t.text) :
    Shows (history ++ [.asked r reply]) := by
  intro before r' reply' hprefix
  rw [List.prefix_concat_iff] at hprefix
  rcases hprefix with hlast | hprefix
  · obtain ⟨rfl, hsame⟩ := List.append_inj' hlast rfl
    cases hsame
    exact ⟨earlier, deeds, t, hhistory, hshown, hlatest, hheaders⟩
  · exact h before r' reply' hprefix

/-! ## One call -/

theorem Credentials.Stale.isQuiet {looked : List Deed} (h : Stale held looked) :
    ∀ d ∈ looked, d.IsQuiet := by
  cases h <;> simp [Deed.IsQuiet]

theorem Credentials.Stale.not_asked_data {looked : List Deed} (h : Stale held looked) (r : Request)
    (reply : Reply) : .asked r reply ∉ looked := by
  cases h <;> simp

theorem Held.refreshes {result : Except Failure Unit} (h : Held history held)
    (hdone : Refreshes held deeds result after) : Held (history ++ deeds) after := by
  cases hdone with
  | renewed hgrants => exact latest_granted history hgrants _
  | refused hnone _ => exact h.append (by simpa [Deed.IsQuiet] using hnone)

theorem Held.obtains {result : Except Failure String} (h : Held history held)
    (hdone : Obtains held deeds result after) : Held (history ++ deeds) after := by
  cases hdone with
  | kept hheld _ => exact hheld ▸ h.append (by simp [Deed.IsQuiet])
  | renewed _ hgrants =>
    rw [← List.append_assoc]
    exact latest_granted _ hgrants _
  | refused hstale hnone _ =>
    rw [← List.append_assoc]
    exact (h.append hstale.isQuiet).append (by simpa [Deed.IsQuiet] using hnone)

theorem Credentials.Refreshes.not_asked_data {result : Except Failure Unit}
    (h : Refreshes held deeds result after) (r : Request) (reply : Reply) :
    .asked r reply ∉ deeds := by
  cases h <;> simp

theorem Credentials.Obtains.not_asked_data {result : Except Failure String}
    (h : Obtains held deeds result after) (r : Request) (reply : Reply) :
    .asked r reply ∉ deeds := by
  cases h with
  | kept _ _ => simp
  | renewed hstale _ => simpa using hstale.not_asked_data r reply
  | refused hstale _ _ => simpa using hstale.not_asked_data r reply

/-- What a call for a token returns. -/
theorem Credentials.Obtains.shown {token : String} (h : Held history held)
    (hdone : Obtains held deeds (.ok token) after) :
    ∃ t, t.text = token ∧ Latest (history ++ deeds) t ∧ Shown history deeds t := by
  have hafter := h.obtains hdone
  cases hdone with
  | kept hheld hfresh =>
    subst hheld
    exact ⟨_, rfl, hafter, .kept rfl h hfresh⟩
  | renewed _ hgrants => exact ⟨_, rfl, hafter, .renewed rfl hgrants rfl⟩

/-- The token in use is the one that was granted last, and every request showed it. -/
structure Sound (history : List Deed) (held : Option AccessToken) : Prop where
  held : Held history held
  shows : Shows history

theorem Sound.append (h : Sound history held) (hquiet : ∀ d ∈ deeds, d.IsQuiet)
    (hnone : ∀ r reply, .asked r reply ∉ deeds) : Sound (history ++ deeds) held :=
  ⟨h.held.append hquiet, h.shows.append hnone⟩

theorem Sound.refreshes {result : Except Failure Unit} (h : Sound history held)
    (hdone : Refreshes held deeds result after) : Sound (history ++ deeds) after :=
  ⟨h.held.refreshes hdone, h.shows.append hdone.not_asked_data⟩

theorem Sound.obtains {result : Except Failure String} (h : Sound history held)
    (hdone : Obtains held deeds result after) : Sound (history ++ deeds) after :=
  ⟨h.held.obtains hdone, h.shows.append hdone.not_asked_data⟩

theorem Sound.fetches {url : String} {result : Except Failure Value} (h : Sound history held)
    (hdone : Client.Fetches url held deeds result after) : Sound (history ++ deeds) after := by
  cases hdone with
  | unsent hobtains => exact h.obtains hobtains
  | sent hobtains =>
    have hsound := h.obtains hobtains
    obtain ⟨t, ht, hlatest, hshown⟩ := hobtains.shown h.held
    rw [← List.append_assoc]
    refine ⟨hsound.held.append (by simp [Deed.IsQuiet]), ?_⟩
    exact hsound.shows.append_asked rfl hshown hlatest (by rw [ht])

/-! ## Steps of a walk over pages -/

/-- What a step of a walk over pages does: nothing to the world, or one request for data, with a
wait after it where the page is to be sent again. -/
inductive PageWalk.Steps (held : Option AccessToken) : List Deed → Option AccessToken → Prop
  | stayed : Steps held [] held
  | sent {url : String} {deeds : List Deed} {result : Except Failure Value}
      {after : Option AccessToken} : Client.Fetches url held deeds result after →
      Steps held deeds after
  | waited {url : String} {deeds : List Deed} {result : Except Failure Value}
      {after : Option AccessToken} (seconds : Binary64) :
      Client.Fetches url held deeds result after → Steps held (deeds ++ [.waited seconds]) after

variable {σ : Type} {c : Client σ} {a : Credentials} {trace : σ → List Deed}

/-- A result that is settled after the world has answered leaves the session as it is. -/
theorem Action.settle_bind_pure {α β : Type} (r : Except Failure α) (g : α → β) (s : Session σ) :
    ((settle r >>= fun x => pure (g x) : Action σ β) s).2 = s := by
  cases r <;> rfl

/-- Sending a page does to the session what its fetch does, and may wait after that. -/
theorem PageWalk.request_session (w : PageWalk) {base : List Char} {cursor : Option Value}
    (fetched sent : Nat) {result : Except Failure Value} {s s' : Session σ}
    (hfetch : c.fetch w.path (pageQuery base cursor) s = (result, s')) :
    (w.request c base cursor fetched sent s).2 = s' ∨
      ∃ seconds, (w.request c base cursor fetched sent s).2 =
        ⟨c.host.sleep seconds s'.outside, s'.token⟩ := by
  have houtcome : (c.fetch w.path (pageQuery base cursor)).outcome s = (.ok result, s') := by
    rw [Action.outcome, hfetch]
  rw [request, Action.bind_of_ok houtcome]
  cases result with
  | ok page => exact .inl (Action.settle_bind_pure ..)
  | error f =>
    cases w.retry with
    | none => exact .inl rfl
    | some p =>
      cases f with
      | reported e =>
        cases e with
        | rateLimit message body fetched' attempts =>
          dsimp only
          cases slowDown p body fetched (sent + 1) with
          | error f => exact .inl rfl
          | ok seconds => exact .inr ⟨seconds, rfl⟩
        | _ => exact .inl rfl
      | _ => exact .inl rfl

theorem PageWalk.steps (hcredentials : c.credentials = some a) (hasks : a.CanAsk)
    (htraced : c.host.Traces trace) (w : PageWalk) (place : PageWalk.Place) (s : Session σ) :
    ∃ deeds, trace (w.step c place s).2.outside = trace s.outside ++ deeds ∧
      Steps s.token deeds (w.step c place s).2.token := by
  cases place with
  | unstarted =>
    have hsame : (w.step c .unstarted s).2 = s := Action.settle_bind_pure ..
    rw [hsame]
    exact ⟨[], by simp, .stayed⟩
  | deliver base records page fetched =>
    have hsame : (w.step c (.deliver base records page fetched) s).2 = s := by
      cases records with
      | cons record records => rfl
      | nil =>
        rw [step]
        cases nextCursor page with
        | error f => rfl
        | ok cursor => cases cursor <;> rfl
    rw [hsame]
    exact ⟨[], by simp, .stayed⟩
  | request base cursor fetched sent =>
    obtain ⟨deeds, htrace, hfetches⟩ :=
      Client.fetches hcredentials hasks htraced w.path (pageQuery base cursor) s
    generalize hrun : c.fetch w.path (pageQuery base cursor) s = run at htrace hfetches
    obtain ⟨result, s'⟩ := run
    rw [step]
    rcases request_session w fetched sent hrun with hsame | ⟨seconds, hslept⟩
    · rw [hsame]
      exact ⟨deeds, htrace, .sent hfetches⟩
    · rw [hslept]
      refine ⟨deeds ++ [.waited seconds], ?_, .waited seconds hfetches⟩
      rw [← List.append_assoc, ← htrace]
      exact htraced.sleep seconds s'.outside

theorem Sound.steps (h : Sound history held) (hdone : PageWalk.Steps held deeds after) :
    Sound (history ++ deeds) after := by
  cases hdone with
  | stayed => rwa [List.append_nil]
  | sent hfetches => exact h.fetches hfetches
  | waited seconds hfetches =>
    rw [← List.append_assoc]
    exact (h.fetches hfetches).append (by simp [Deed.IsQuiet]) (by simp)

/-! ## Runs -/

/-- What is called on the way: a token is asked for, or a new one; data is asked for, by itself or
by a step of a walk over pages. -/
inductive Call (c : Client σ) (a : Credentials) : {α : Type} → Action σ α → Prop
  | obtain : Call c a (a.obtain c.host)
  | refresh : Call c a (a.refresh c.host)
  | fetch (path : String) (query : List Char) : Call c a (c.fetch path query)
  | step (w : PageWalk) (place : PageWalk.Place) : Call c a (w.step c place)

/-- The sessions that calls and clears lead to from one without a token, with the deeds on the way.
Between two of them the world goes its own way. -/
inductive Uses (c : Client σ) (a : Credentials) (trace : σ → List Deed) :
    List Deed → Session σ → Prop
  | start (w : σ) : Uses c a trace [] ⟨w, none⟩
  | elsewhere {history : List Deed} {s : Session σ} (w : σ) : Uses c a trace history s →
      Uses c a trace history ⟨w, s.token⟩
  | called {α : Type} {call : Action σ α} {history deeds : List Deed} {s : Session σ} :
      Uses c a trace history s → Call c a call →
      trace (call s).2.outside = trace s.outside ++ deeds →
      Uses c a trace (history ++ deeds) (call s).2
  | cleared {history : List Deed} {s : Session σ} : Uses c a trace history s →
      Uses c a trace (history ++ [.cleared]) (Credentials.forget s).2

theorem Sound.called (hcredentials : c.credentials = some a) (hasks : a.CanAsk)
    (htraced : c.host.Traces trace) {α : Type} {call : Action σ α} (hcall : Call c a call)
    {s : Session σ} (h : Sound history s.token)
    (htrace : trace (call s).2.outside = trace s.outside ++ deeds) :
    Sound (history ++ deeds) (call s).2.token := by
  cases hcall with
  | obtain =>
    obtain ⟨deeds', htrace', hdone⟩ := Credentials.obtains hasks htraced s
    rw [List.append_cancel_left (htrace.symm.trans htrace')]
    exact h.obtains hdone
  | refresh =>
    obtain ⟨deeds', htrace', hdone⟩ := Credentials.refreshes hasks htraced s
    rw [List.append_cancel_left (htrace.symm.trans htrace')]
    exact h.refreshes hdone
  | fetch path query =>
    obtain ⟨deeds', htrace', hdone⟩ := Client.fetches hcredentials hasks htraced path query s
    rw [List.append_cancel_left (htrace.symm.trans htrace')]
    exact h.fetches hdone
  | step w place =>
    obtain ⟨deeds', htrace', hdone⟩ := PageWalk.steps hcredentials hasks htraced w place s
    rw [List.append_cancel_left (htrace.symm.trans htrace')]
    exact h.steps hdone

theorem Uses.sound (hcredentials : c.credentials = some a) (hasks : a.CanAsk)
    (htraced : c.host.Traces trace) {s : Session σ} (h : Uses c a trace history s) :
    Sound history s.token := by
  induction h with
  | start w =>
    refine ⟨⟨[], [], rfl, by simp, .inl rfl⟩, ?_⟩
    intro before r reply hprefix
    simp at hprefix
  | elsewhere w _ ih => exact ih
  | called _ hcall htrace ih => exact ih.called hcredentials hasks htraced hcall htrace
  | cleared _ ih => exact ⟨held_cleared _, ih.shows.append (by simp)⟩

/-! ## How often a token is asked for -/

/-- No token is asked for where the clock leaves the one in use more than five minutes, and one is
asked for once otherwise. -/
def AsksIfStale (held : Option AccessToken) (deeds : List Deed) : Prop :=
  (deeds.countP Deed.asksToken = 0 ↔ ∃ t now, held = some t ∧
    deeds.head? = some (.readClock now) ∧ now < t.expiresAt - 300000) ∧
  deeds.countP Deed.asksToken ≤ 1

/-- Where the token in use has to be replaced, the call that sees it asks for one. -/
theorem Credentials.Stale.asksIfStale {looked later : List Deed} (h : Stale held looked)
    (r : TokenRequest) (reply : Reply) (hlater : later.countP Deed.asksToken = 0) :
    AsksIfStale held (looked ++ .askedToken r reply :: later) := by
  cases h with
  | absent hnone =>
    subst hnone
    simp [AsksIfStale, Deed.asksToken, List.countP_cons, hlater]
  | expiring hheld hstale =>
    subst hheld
    simp [AsksIfStale, Deed.asksToken, List.countP_cons, hlater]
    omega

theorem Credentials.Obtains.asksIfStale {result : Except Failure String}
    (h : Obtains held deeds result after) : AsksIfStale held deeds := by
  cases h with
  | kept hheld hfresh =>
    subst hheld
    simpa [AsksIfStale, Deed.asksToken] using hfresh
  | renewed hstale _ => exact hstale.asksIfStale _ _ rfl
  | refused hstale _ _ => exact hstale.asksIfStale _ _ rfl

theorem AsksIfStale.append_asked (h : AsksIfStale held deeds) (hdone : deeds ≠ []) (r : Request)
    (reply : Reply) : AsksIfStale held (deeds ++ [.asked r reply]) := by
  rw [AsksIfStale, List.countP_append, List.head?_append_of_ne_nil _ hdone]
  exact h

theorem Credentials.Obtains.ne_nil {result : Except Failure String}
    (h : Obtains held deeds result after) : deeds ≠ [] := by
  cases h <;> simp

theorem Client.Fetches.asksIfStale {url : String} {result : Except Failure Value}
    (h : Fetches url held deeds result after) : AsksIfStale held deeds := by
  cases h with
  | unsent hobtains => exact hobtains.asksIfStale
  | sent hobtains => exact hobtains.asksIfStale.append_asked hobtains.ne_nil _ _

/-- A token was asked for, and none was granted. -/
def InVain (deeds : List Deed) : Prop :=
  ∃ r reply, .askedToken r reply ∈ deeds ∧ ∀ g, ¬Grants reply g

theorem Credentials.Obtains.inVain {f : Failure} (h : Obtains held deeds (.error f) after) :
    InVain deeds := by
  cases h with
  | refused _ hnone _ => exact ⟨_, _, List.mem_append_right _ List.mem_cons_self, hnone⟩

theorem Client.Fetches.sends {url : String} {result : Except Failure Value}
    (h : Fetches url held deeds result after) :
    (∃ before r reply, deeds = before ++ [.asked r reply]) ∨ InVain deeds := by
  cases h with
  | unsent hobtains => exact .inr hobtains.inVain
  | sent _ => exact .inl ⟨_, _, _, rfl⟩

/-- **Tokens are fresh and asked for no more often than needed.** After any run of calls, clears and
requests for data, the token in use is the one that was granted last, if none was cleared since, and
every request that was sent showed that token as its call gave it: newly granted, or with more than
five minutes left. A further call gives such a token, unless it asks for one in vain, and a further
request is sent then. Both ask for a token exactly where there is none or the clock leaves it five
minutes or less, and then once. -/
theorem tokens_are_fresh_and_few (c : Client σ) (a : Credentials)
    (hcredentials : c.credentials = some a) (hasks : a.CanAsk) (trace : σ → List Deed)
    (htraced : c.host.Traces trace) {history : List Deed} {s : Session σ}
    (h : Uses c a trace history s) :
    Held history s.token ∧ Shows history ∧
      (∃ deeds, trace (a.obtain c.host s).2.outside = trace s.outside ++ deeds ∧
        AsksIfStale s.token deeds ∧
        match (a.obtain c.host s).1 with
        | .ok token => ∃ t, t.text = token ∧ Latest (history ++ deeds) t ∧ Shown history deeds t
        | .error _ => InVain deeds) ∧
      ∀ path query, ∃ deeds, trace (c.fetch path query s).2.outside = trace s.outside ++ deeds ∧
        AsksIfStale s.token deeds ∧
        ((∃ before r reply, deeds = before ++ [.asked r reply]) ∨ InVain deeds) := by
  have hsound := h.sound hcredentials hasks htraced
  refine ⟨hsound.held, hsound.shows, ?_, ?_⟩
  · obtain ⟨deeds, htrace, hdone⟩ := Credentials.obtains hasks htraced s
    refine ⟨deeds, htrace, hdone.asksIfStale, ?_⟩
    cases hresult : (a.obtain c.host s).1 with
    | ok token =>
      rw [hresult] at hdone
      exact hdone.shown hsound.held
    | error f =>
      rw [hresult] at hdone
      exact hdone.inVain
  · intro path query
    obtain ⟨deeds, htrace, hdone⟩ := Client.fetches hcredentials hasks htraced path query s
    exact ⟨deeds, htrace, hdone.asksIfStale, hdone.sends⟩

/-! ## A token that is granted and shown -/

open Client

def hourGrant : TokenGrant :=
  ⟨"t", 3600⟩

/-- An answer that grants a token for an hour. -/
def hourReply : Reply :=
  page "\x7b\"access_token\":\"t\",\"expires_in\":3600\x7d"

theorem grants_hourReply : Grants hourReply hourGrant := by
  have hjson : (pageResponse "\x7b\"access_token\":\"t\",\"expires_in\":3600\x7d").json =
      .ok (.dict [(.str "access_token", .str "t"), (.str "expires_in", .int 3600)]) :=
    json_page [.openObject, .scalar (.str "access_token"), .colon, .scalar (.str "t"), .comma,
      .scalar (.str "expires_in"), .colon, .scalar (.int 3600), .closeObject] rfl rfl rfl
  have hstatus : (200 : Int) ≤ 200 ∧ (200 : Int) ≤ 299 := by decide
  refine ⟨hstatus, _, hjson, _, rfl, rfl, ⟨.int 3600, rfl, rfl⟩, ?_, ?_⟩
  · intro kind hkind
    cases hkind
  · intro scope hscope
    cases hscope

/-- A world where the next request for a token gets a reply, and requests for data get none. -/
def answering (reply : Reply) : Traced Replay.Tape :=
  ⟨⟨[], [], [reply], 1000000, []⟩, []⟩

/-- A request for data without a token in use asks for one and shows it. -/
theorem fetch_granted {reply : Reply} (hgrants : Grants reply hourGrant) :
    ∃ r run, keyed.fetch "/m" [] ⟨answering reply, none⟩ = run ∧
      run.2.token = some ⟨"t", 4600000⟩ ∧
      run.2.outside.deeds = [.askedToken r reply, .readClock 1000000,
        .asked ⟨"https://test.api/m", bearing "t"⟩ Replay.Tape.silence] := by
  have hgrant : grantOfReply reply = .ok hourGrant := by
    cases reply with
    | unreachable message => exact hgrants.elim
    | answered r => exact grantOf_eq_ok.2 hgrants
  obtain ⟨r, hrequest⟩ := canAsk_keys.request
  let s : Session (Traced Replay.Tape) := ⟨⟨⟨[], [], [], 1000000, [.tokenRequested r]⟩,
    [.askedToken r reply, .readClock 1000000]⟩, some ⟨"t", 4600000⟩⟩
  have hobtain : keys.obtain keyed.host ⟨answering reply, none⟩ = (.ok "t", s) := by
    have hsend : keys.send keyed.host r ⟨answering reply, none⟩ = (.ok reply,
      ⟨⟨⟨[], [], [], 1000000, [.tokenRequested r]⟩, [.askedToken r reply]⟩, none⟩) := rfl
    rw [obtain_eq rfl, refresh_eq hrequest hsend, hgrant]
    rfl
  have hheaders : keyed.headers ⟨answering reply, none⟩ = (.ok (bearing "t"), s) :=
    Action.bind_of_ok hobtain
  refine ⟨r, _, rfl, ?_⟩
  rw [fetch, Action.bind_of_ok hheaders]
  exact ⟨rfl, rfl⟩

/-- The request before which a token was granted shows that token. -/
theorem granted_token_is_shown :
    ∃ history s, keyed.credentials = some keys ∧ keys.CanAsk ∧ keyed.host.Traces Traced.deeds ∧
      Uses keyed keys Traced.deeds history s ∧ s.token = some ⟨"t", 4600000⟩ ∧
      .asked ⟨"https://test.api/m", bearing "t"⟩ Replay.Tape.silence ∈ history ∧
      Held history s.token ∧ Shows history := by
  have htraced : keyed.host.Traces Traced.deeds := Host.traces_tracing _
  obtain ⟨reply, hgrants⟩ : ∃ reply, Grants reply hourGrant := ⟨hourReply, grants_hourReply⟩
  obtain ⟨r, run, hfetch, htoken, hdeeds⟩ := fetch_granted hgrants
  have huses : Uses keyed keys Traced.deeds ([] ++ run.2.outside.deeds) run.2 := by
    rw [← hfetch]
    exact .called (.start (answering reply)) (.fetch "/m" []) rfl
  obtain ⟨hheld, hshows, -⟩ :=
    tokens_are_fresh_and_few keyed keys rfl canAsk_keys Traced.deeds htraced huses
  refine ⟨_, run.2, rfl, canAsk_keys, htraced, huses, htoken, ?_, hheld, hshows⟩
  simp [hdeeds]

end DataPortal
