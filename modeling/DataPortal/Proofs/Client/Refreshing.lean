import DataPortal.Proofs.Client.Requests
import DataPortal.Proofs.Client.Trace
import DataPortal.Proofs.Outcome
import DataPortal.Proofs.Service.ErrorAnswer
import DataPortal.Replay
/-!
# Asking for a token

What one call does with the token in use. A token is only replaced by one that an answer grants;
any other answer leaves it as it is, and the call fails with a report of that answer, unless the
answer is too deep to be read.
-/
namespace DataPortal

namespace Credentials

open Service

variable {σ : Type}

/-! ## Answers to a request for a token -/

/-- An object that holds a token and the number of seconds for which it is good. -/
def HoldsGrant (v : Value) (g : TokenGrant) : Prop :=
  ∃ entries, v = .dict entries ∧
    Value.lookup "access_token" entries = some (.str g.token) ∧
    (∃ n, Value.lookup "expires_in" entries = some n ∧ Record.integer? n = some g.expiresIn) ∧
    (∀ kind ∈ Value.lookup "token_type" entries, ∃ s, kind = .str s) ∧
    (∀ scope ∈ Value.lookup "scope" entries, scope = .null ∨ ∃ s, scope = .str s)

/-- An answer of success that holds a token. -/
def IsGrant (r : Response) (g : TokenGrant) : Prop :=
  (200 ≤ r.status ∧ r.status ≤ 299) ∧ ∃ v, r.json = .ok v ∧ HoldsGrant v g

/-- A reply that grants a token. -/
def Grants : Reply → TokenGrant → Prop
  | .unreachable _, _ => False
  | .answered r, g => IsGrant r g

/-- More lists and objects of an answer lie in one another than can be read. -/
def IsTooDeep (r : Response) : Prop :=
  r.json = .error .tooDeep

/-- An answer with no more opening brackets than there is room for is not too deep. -/
theorem not_isTooDeep_of_openings {r : Response}
    (h : ∀ points ∈ Text.Encoding.decode? r.body, points.countP Json.isOpeningPoint ≤ r.room) :
    ¬IsTooDeep r := by
  rw [IsTooDeep, Response.json]
  split
  · simp
  · rename_i points hpoints
    exact Json.read_ne_tooDeep (h points hpoints)

/-- The message for an answer that is none of success: its description, where it is an object that
has one. -/
def IsReason (r : Response) (message : LooseText) : Prop :=
  (∃ entries v, r.json = .ok (.dict entries) ∧
      Value.lookup "error_description" entries = some v ∧ v.text? = some message) ∨
    message = .sound "Failed to obtain access token" ∧
      ∀ entries v, r.json = .ok (.dict entries) →
        Value.lookup "error_description" entries = some v → v.text? = none

/-- The failure that a reply without a token comes to. An answer is reported, unless it is too
deep. -/
def Reports : Reply → Failure → Prop
  | .unreachable message, f => f = .unreachable message
  | .answered r, f =>
    (IsTooDeep r ∧ f = .tooDeep) ∨
      ¬IsTooDeep r ∧ ∃ message body,
        f = .reported (.service .authentication message r.status body none) ∧
          (¬(200 ≤ r.status ∧ r.status ≤ 299) → IsReason r message)

theorem text?_eq_some {v : Value} {s : String} : Record.text? v = some s ↔ v = .str s := by
  cases v <;> simp [Record.text?]

theorem object?_eq_some {v : Value} {entries : List (Value × Value)} :
    Record.object? v = some entries ↔ v = .dict entries := by
  cases v <;> simp [Record.object?]

theorem exists_optionalText {o : Option Value} :
    (∃ t, Record.optional Record.text? o = some t) ↔ ∀ v ∈ o, v = .null ∨ ∃ s, v = .str s := by
  cases o with
  | none => simp [Record.optional, Record.orNull]
  | some v => cases v <;> simp [Record.optional, Record.orNull, Record.text?]

theorem exists_defaultText {o : Option Value} (default : String) :
    (∃ s, o.getD (.str default) = .str s) ↔ ∀ v ∈ o, ∃ s, v = .str s := by
  cases o <;> simp

theorem ofValue?_eq_some {v : Value} {g : TokenGrant} :
    TokenGrant.ofValue? v = some g ↔ HoldsGrant v g := by
  simp only [TokenGrant.ofValue?, Record.required, Option.bind_eq_bind, Option.bind_eq_some_iff,
    object?_eq_some, text?_eq_some, HoldsGrant, ← exists_optionalText,
    ← exists_defaultText "Bearer"]
  constructor
  · rintro ⟨entries, hv, token, ⟨_, htoken, rfl⟩, seconds, hseconds, kind, hkind, scope, hscope, hg⟩
    cases hg
    exact ⟨entries, hv, htoken, hseconds, ⟨kind, hkind⟩, scope, hscope⟩
  · rintro ⟨entries, hv, htoken, hseconds, ⟨kind, hkind⟩, scope, hscope⟩
    exact ⟨entries, hv, g.token, ⟨_, htoken, rfl⟩, g.expiresIn, hseconds, kind, hkind, scope,
      hscope, rfl⟩

section Content

variable {r : Response} {v : Value} {held : Option Value} {g : TokenGrant} {f : Failure}

theorem content_eq_some : content r = .ok (some v) ↔ r.json = .ok v := by
  rw [content]
  split
  · rename_i hjson
    rw [hjson]
    simp
  · rename_i hjson
    rw [hjson]
    simp
  · rename_i hjson
    rw [hjson]
    simp

theorem content_eq_error : content r = .error f ↔ IsTooDeep r ∧ f = .tooDeep := by
  rw [content, IsTooDeep]
  split
  · rename_i hjson
    rw [hjson]
    simp
  · rename_i hjson
    rw [hjson]
    simp [eq_comm]
  · rename_i hother hjson
    rw [hjson]
    simpa using fun hdeep => absurd hdeep hother

theorem grantOf_eq_ok : grantOf r = .ok g ↔ IsGrant r g := by
  rw [grantOf, Outcome.bind_eq_ok]
  constructor
  · rintro ⟨held, hheld, hgrant⟩
    split at hgrant
    · rename_i hsuccess
      split at hgrant
      · rename_i hvalue
        cases hgrant
        obtain ⟨v, rfl, hv⟩ := Option.bind_eq_some_iff.1 hvalue
        exact ⟨Response.isSuccess_iff.1 hsuccess, v, content_eq_some.1 hheld, ofValue?_eq_some.1 hv⟩
      · cases hgrant
    · cases hgrant
  · rintro ⟨hsuccess, v, hjson, hgrant⟩
    refine ⟨some v, content_eq_some.2 hjson, ?_⟩
    rw [if_pos (Response.isSuccess_iff.2 hsuccess), Option.bind_some, ofValue?_eq_some.2 hgrant]

/-- The description of an object, if it has one. -/
theorem text?_entry {entries : List (Value × Value)} {name : String} :
    (Value.entry name entries).text? = (Value.lookup name entries).bind Value.text? := by
  rw [Value.entry]
  cases Value.lookup name entries <;> rfl

/-- The error for an answer that is none of success. -/
theorem refusal_eq (hheld : content r = .ok held) : ∃ message body,
    refusal r.status held = .service .authentication message r.status body none ∧
      IsReason r message := by
  unfold refusal
  split
  · rename_i entries
    have hjson := content_eq_some.1 hheld
    refine ⟨_, _, rfl, ?_⟩
    rw [text?_entry]
    cases htext : (Value.lookup "error_description" entries).bind Value.text? with
    | some s =>
      obtain ⟨v, hv, hs⟩ := Option.bind_eq_some_iff.1 htext
      exact .inl ⟨entries, v, hjson, hv, hs⟩
    | none =>
      refine .inr ⟨rfl, fun entries' v hjson' hv => ?_⟩
      rw [hjson] at hjson'
      cases hjson'
      rwa [hv] at htext
  · rename_i hother
    refine ⟨_, _, rfl, .inr ⟨rfl, fun entries v hjson _ => ?_⟩⟩
    rw [content_eq_some.2 hjson] at hheld
    exact absurd (Except.ok.inj hheld).symm (hother entries)

/-- The failure of an answer that grants no token. -/
theorem reports_of_grantOf (h : grantOf r = .error f) : Reports (.answered r) f := by
  rw [grantOf] at h
  cases hheld : content r with
  | error f' =>
    rw [hheld] at h
    cases h
    exact .inl (content_eq_error.1 hheld)
  | ok held =>
    have hread : ¬IsTooDeep r := by
      intro hdeep
      rw [content_eq_error.2 ⟨hdeep, rfl⟩] at hheld
      cases hheld
    refine .inr ⟨hread, ?_⟩
    rw [hheld] at h
    change (if r.isSuccess then _ else _) = _ at h
    split at h
    · rename_i hsuccess
      split at h
      · cases h
      · cases h
        exact ⟨_, _, rfl, fun hfailed => absurd (Response.isSuccess_iff.1 hsuccess) hfailed⟩
    · cases h
      obtain ⟨message, body, hrefusal, hreason⟩ := refusal_eq hheld
      exact ⟨message, body, by rw [hrefusal], fun _ => hreason⟩

end Content

/-- A reply grants a token, or comes to a failure. -/
theorem grantOfReply_cases (reply : Reply) :
    (∃ g, grantOfReply reply = .ok g ∧ Grants reply g) ∨
      ∃ f, grantOfReply reply = .error f ∧ (∀ g, ¬Grants reply g) ∧ Reports reply f := by
  cases reply with
  | unreachable message => exact .inr ⟨_, rfl, fun _ h => h, rfl⟩
  | answered r =>
    cases hgrant : grantOf r with
    | ok g => exact .inl ⟨g, hgrant, grantOf_eq_ok.1 hgrant⟩
    | error f =>
      refine .inr ⟨f, hgrant, fun g hg => ?_, reports_of_grantOf hgrant⟩
      rw [grantOf_eq_ok.2 hg] at hgrant
      cases hgrant

/-! ## One call -/

/-- Credentials with which a token can be asked for: the scopes are texts, and the timeout for a
connection of its own is a number of seconds. -/
structure CanAsk (c : Credentials) : Prop where
  scopes : ∃ texts : List String, c.scopes = texts.map .str
  timeout : ∀ t ∈ c.ownConnection, ∃ seconds, timeoutSeconds t = .ok seconds

variable {c : Credentials} {host : Host σ} {trace : σ → List Deed}

theorem mapM_text? (texts : List String) :
    (texts.map Value.str).mapM Record.text? = some texts := by
  induction texts with
  | nil => rfl
  | cons s texts ih => simp [List.mapM_cons, Record.text?, ih]

theorem CanAsk.request (h : c.CanAsk) : ∃ r, c.request = .ok r := by
  obtain ⟨texts, htexts⟩ := h.scopes
  rw [Credentials.request, scopeText, htexts, mapM_text?]
  exact ⟨_, rfl⟩

theorem send_eq (hasks : c.CanAsk) (htraced : host.Traces trace) (r : TokenRequest)
    (s : Session σ) : ∃ reply w, c.send host r s = (.ok reply, ⟨w, s.token⟩) ∧
      trace w = trace s.outside ++ [.askedToken r reply] := by
  rw [send]
  cases hown : c.ownConnection with
  | none => exact ⟨_, _, rfl, htraced.post r s.outside⟩
  | some timeout =>
    obtain ⟨seconds, hseconds⟩ := hasks.timeout timeout hown
    have hsettled : Action.settle (timeoutSeconds timeout) s = (.ok seconds, s) := by
      rw [hseconds]
      rfl
    refine ⟨_, _, Action.bind_of_ok hsettled, ?_⟩
    simp only [htraced.connection, htraced.post]

/-- The token that a grant brings into use at some moment. -/
def granted (g : TokenGrant) (now : Int) : AccessToken :=
  ⟨g.token, now + g.expiresIn * 1000⟩

/-- What a refresh does: its deeds, its result, and the token in use after it. -/
inductive Refreshes (held : Option AccessToken) :
    List Deed → Except Failure Unit → Option AccessToken → Prop
  | renewed {r : TokenRequest} {reply : Reply} {g : TokenGrant} {now : Int} : Grants reply g →
      Refreshes held [.askedToken r reply, .readClock now] (.ok ()) (some (granted g now))
  | refused {r : TokenRequest} {reply : Reply} {f : Failure} : (∀ g, ¬Grants reply g) →
      Reports reply f → Refreshes held [.askedToken r reply] (.error f) held

theorem refresh_eq {r : TokenRequest} {reply : Reply} {s s' : Session σ}
    (hrequest : c.request = .ok r) (hsend : c.send host r s = (.ok reply, s')) :
    c.refresh host s = match grantOfReply reply with
      | .error f => (.error f, s')
      | .ok g =>
        (.ok (), ⟨(host.clock s'.outside).2, some (granted g (host.clock s'.outside).1)⟩) := by
  have hsettled : Action.settle c.request s = (.ok r, s) := by
    rw [hrequest]
    rfl
  rw [refresh, Action.bind_of_ok hsettled, Action.bind_of_ok hsend]
  cases grantOfReply reply <;> rfl

theorem refreshes (hasks : c.CanAsk) (htraced : host.Traces trace) (s : Session σ) :
    ∃ deeds, trace (c.refresh host s).2.outside = trace s.outside ++ deeds ∧
      Refreshes s.token deeds (c.refresh host s).1 (c.refresh host s).2.token := by
  obtain ⟨r, hrequest⟩ := hasks.request
  obtain ⟨reply, w, hsend, hasked⟩ := send_eq hasks htraced r s
  rw [refresh_eq hrequest hsend]
  rcases grantOfReply_cases reply with ⟨g, hgrant, hgrants⟩ | ⟨f, hgrant, hnone, hreports⟩
  · rw [hgrant]
    refine ⟨[.askedToken r reply, .readClock (host.clock w).1], ?_, .renewed hgrants⟩
    show trace (host.clock w).2 = _
    rw [htraced.clock, hasked, List.append_assoc]
    rfl
  · rw [hgrant]
    exact ⟨_, hasked, .refused hnone hreports⟩

/-- There is no token, or the clock says that it has to be replaced. -/
inductive Stale (held : Option AccessToken) : List Deed → Prop
  | absent : held = none → Stale held []
  | expiring {t : AccessToken} {now : Int} : held = some t → t.expiresAt - 300000 ≤ now →
      Stale held [.readClock now]

/-- What a call for a token does. -/
inductive Obtains (held : Option AccessToken) :
    List Deed → Except Failure String → Option AccessToken → Prop
  | kept {t : AccessToken} {now : Int} : held = some t → now < t.expiresAt - 300000 →
      Obtains held [.readClock now] (.ok t.text) (some t)
  | renewed {looked : List Deed} {r : TokenRequest} {reply : Reply} {g : TokenGrant} {now : Int} :
      Stale held looked → Grants reply g →
      Obtains held (looked ++ [.askedToken r reply, .readClock now]) (.ok g.token)
        (some (granted g now))
  | refused {looked : List Deed} {r : TokenRequest} {reply : Reply} {f : Failure} :
      Stale held looked → (∀ g, ¬Grants reply g) → Reports reply f →
      Obtains held (looked ++ [.askedToken r reply]) (.error f) held

/-- A call for a token first looks whether the one in use can be kept. -/
theorem isValid_cases (htraced : host.Traces trace) (s : Session σ) :
    (∃ t now w, s.token = some t ∧ now < t.expiresAt - 300000 ∧
        isValid host s = (.ok true, ⟨w, some t⟩) ∧ trace w = trace s.outside ++ [.readClock now]) ∨
      ∃ looked w, Stale s.token looked ∧ isValid host s = (.ok false, ⟨w, s.token⟩) ∧
        trace w = trace s.outside ++ looked := by
  obtain ⟨w, held⟩ := s
  cases held with
  | none => exact .inr ⟨[], w, .absent rfl, rfl, by simp⟩
  | some t =>
    have hvalid : isValid host ⟨w, some t⟩ =
        (.ok (t.isFresh (host.clock w).1), ⟨(host.clock w).2, some t⟩) := rfl
    by_cases hfresh : (host.clock w).1 < t.expiresAt - 300000
    · have hyes : t.isFresh (host.clock w).1 = true := decide_eq_true hfresh
      rw [hyes] at hvalid
      exact .inl ⟨t, _, _, rfl, hfresh, hvalid, htraced.clock w⟩
    · have hno : t.isFresh (host.clock w).1 = false := decide_eq_false hfresh
      rw [hno] at hvalid
      exact .inr ⟨_, _, .expiring rfl (by omega), hvalid, htraced.clock w⟩

/-- A call that cannot keep the token in use returns the one of a refresh. -/
theorem obtain_eq {s s' : Session σ} (hvalid : isValid host s = (.ok false, s')) :
    c.obtain host s = match c.refresh host s' with
      | (.error f, s'') => (.error f, s'')
      | (.ok _, s'') => (tokenText s''.token, s'') := by
  rw [obtain, Action.bind_of_ok hvalid, if_pos (by rfl)]
  cases hrun : c.refresh host s' with
  | mk result s'' =>
    cases result with
    | error f => exact Action.bind_of_error hrun
    | ok x => exact Action.bind_of_ok hrun

theorem obtains (hasks : c.CanAsk) (htraced : host.Traces trace) (s : Session σ) :
    ∃ deeds, trace (c.obtain host s).2.outside = trace s.outside ++ deeds ∧
      Obtains s.token deeds (c.obtain host s).1 (c.obtain host s).2.token := by
  rcases isValid_cases htraced s with ⟨t, now, w, hheld, hfresh, hvalid, hread⟩ |
    ⟨looked, w, hstale, hvalid, hread⟩
  · rw [obtain, Action.bind_of_ok hvalid, hheld]
    exact ⟨_, hread, .kept rfl hfresh⟩
  · obtain ⟨deeds, htrace, hrefreshes⟩ := refreshes hasks htraced (⟨w, s.token⟩ : Session σ)
    have hdeeds : trace (c.refresh host ⟨w, s.token⟩).2.outside =
        trace s.outside ++ (looked ++ deeds) := by
      rw [htrace, hread, List.append_assoc]
    rw [obtain_eq hvalid]
    generalize c.refresh host ⟨w, s.token⟩ = run at hdeeds hrefreshes
    obtain ⟨result, w', held⟩ := run
    cases hrefreshes with
    | renewed hgrants => exact ⟨_, hdeeds, .renewed hstale hgrants⟩
    | refused hnone hreports => exact ⟨_, hdeeds, .refused hstale hnone hreports⟩

end Credentials

namespace Client

open Credentials Service

variable {σ : Type} {c : Client σ} {a : Credentials} {trace : σ → List Deed}

/-- The headers of a request that shows a token. -/
def bearing (token : String) : List (String × String) :=
  [("Accept", "application/json"), ("Authorization", "Bearer " ++ token)]

/-- What a request for data does: it is sent with a token, or not at all. -/
inductive Fetches (url : String) (held : Option AccessToken) :
    List Deed → Except Failure Value → Option AccessToken → Prop
  | sent {deeds : List Deed} {token : String} {reply : Reply} {after : Option AccessToken} :
      Obtains held deeds (.ok token) after →
      Fetches url held (deeds ++ [.asked ⟨url, bearing token⟩ reply]) (readReply reply) after
  | unsent {deeds : List Deed} {f : Failure} {after : Option AccessToken} :
      Obtains held deeds (.error f) after → Fetches url held deeds (.error f) after

theorem fetches (hcredentials : c.credentials = some a) (hasks : a.CanAsk)
    (htraced : c.host.Traces trace) (path : String) (query : List Char) (s : Session σ) :
    ∃ deeds, trace (c.fetch path query s).2.outside = trace s.outside ++ deeds ∧
      Fetches (c.config.baseUrl ++ path ++ String.ofList query) s.token deeds
        (c.fetch path query s).1 (c.fetch path query s).2.token := by
  obtain ⟨deeds, htrace, hobtains⟩ := obtains hasks htraced s
  generalize hrun : a.obtain c.host s = run at htrace hobtains
  obtain ⟨result, w, held⟩ := run
  cases result with
  | error f =>
    have hheaders : c.headers s = (.error f, ⟨w, held⟩) := by
      rw [headers, hcredentials]
      exact Action.bind_of_error hrun
    rw [fetch, Action.bind_of_error hheaders]
    exact ⟨deeds, htrace, .unsent hobtains⟩
  | ok token =>
    have hheaders : c.headers s = (.ok (bearing token), ⟨w, held⟩) := by
      rw [headers, hcredentials]
      exact Action.bind_of_ok hrun
    rw [fetch_of_headers hheaders rfl]
    refine ⟨_, ?_, .sent hobtains⟩
    rw [← List.append_assoc, ← htrace]
    exact htraced.get _ w

end Client

/-! ## The token that a call leaves -/

namespace Credentials

open Service

/-- A call that replaces the token in use by one that is granted, and only by such a one. Where a
reply grants none, it fails with a report of that reply and leaves the token as it is. -/
structure ReplacesIfGranted {α : Type} (held : Option AccessToken) (deeds : List Deed)
    (result : Except Failure α) (after : Option AccessToken) : Prop where
  granted : ∀ r reply g, .askedToken r reply ∈ deeds → Grants reply g →
    ∃ now, [.askedToken r reply, .readClock now] <:+: deeds ∧
      after = some ⟨g.token, now + g.expiresIn * 1000⟩
  refused : ∀ r reply, .askedToken r reply ∈ deeds → (∀ g, ¬Grants reply g) →
    after = held ∧ ∃ f, result = .error f ∧ Reports reply f
  changed : after ≠ held → ∃ r reply g, .askedToken r reply ∈ deeds ∧ Grants reply g

variable {α : Type} {held after : Option AccessToken} {deeds looked : List Deed}
  {r : TokenRequest} {reply : Reply} {g : TokenGrant} {now : Int} {f : Failure}

/-- Nothing was asked for. -/
def Silent (deeds : List Deed) : Prop :=
  ∀ r reply, .askedToken r reply ∉ deeds

theorem Stale.silent (h : Stale held looked) : Silent looked := by
  intro r reply
  cases h <;> simp

/-- A reply grants at most one token. -/
theorem Grants.unique {g' : TokenGrant} (h : Grants reply g) (h' : Grants reply g') : g' = g := by
  cases reply with
  | unreachable message => exact h.elim
  | answered r =>
    have hsame : Except.ok g = Except.ok g' :=
      (grantOf_eq_ok.2 h).symm.trans (grantOf_eq_ok.2 h')
    cases hsame
    rfl

/-- What is asked for after nothing was asked for is the first thing asked for. -/
theorem Silent.eq_of_mem {later : List Deed} {r' : TokenRequest} {reply' : Reply}
    (hlooked : Silent looked) (hlater : Silent later)
    (h : .askedToken r' reply' ∈ looked ++ .askedToken r reply :: later) :
    r' = r ∧ reply' = reply := by
  rcases List.mem_append.1 h with h | h
  · exact absurd h (hlooked r' reply')
  · rcases List.mem_cons.1 h with h | h
    · cases h
      exact ⟨rfl, rfl⟩
    · exact absurd h (hlater r' reply')

theorem replacesIfGranted_of_silent (hsilent : Silent deeds) (result : Except Failure α) :
    ReplacesIfGranted held deeds result held where
  granted r reply _ hasked := absurd hasked (hsilent r reply)
  refused r reply hasked := absurd hasked (hsilent r reply)
  changed hchanged := absurd rfl hchanged

theorem replacesIfGranted_of_grants (hsilent : Silent looked) (hgrants : Grants reply g)
    (result : Except Failure α) :
    ReplacesIfGranted held (looked ++ [.askedToken r reply, .readClock now]) result
      (some (granted g now)) where
  granted r' reply' g' hasked hgrants' := by
    obtain ⟨rfl, rfl⟩ := hsilent.eq_of_mem (by simp [Silent]) hasked
    obtain rfl := hgrants.unique hgrants'
    exact ⟨now, List.infix_append' looked _ [], rfl⟩
  refused r' reply' hasked hnone := by
    obtain ⟨rfl, rfl⟩ := hsilent.eq_of_mem (by simp [Silent]) hasked
    exact absurd hgrants (hnone g)
  changed _ := ⟨r, reply, g, by simp, hgrants⟩

theorem replacesIfGranted_of_reports (hsilent : Silent looked) (hnone : ∀ g, ¬Grants reply g)
    (hreports : Reports reply f) :
    ReplacesIfGranted held (looked ++ [.askedToken r reply]) (.error f : Except Failure α)
      held where
  granted r' reply' g' hasked hgrants := by
    obtain ⟨rfl, rfl⟩ := hsilent.eq_of_mem (by simp [Silent]) hasked
    exact absurd hgrants (hnone g')
  refused r' reply' hasked _ := by
    obtain ⟨rfl, rfl⟩ := hsilent.eq_of_mem (by simp [Silent]) hasked
    exact ⟨rfl, f, rfl, hreports⟩
  changed hchanged := absurd rfl hchanged

/-- A refresh always asks for a token, and succeeds where the reply grants one. -/
theorem Refreshes.exists_asked {result : Except Failure Unit}
    (h : Refreshes held deeds result after) :
    ∃ r reply later, deeds = .askedToken r reply :: later ∧
      (result = .ok () ↔ ∃ g, Grants reply g) := by
  cases h with
  | renewed hgrants => exact ⟨_, _, _, rfl, fun _ => ⟨_, hgrants⟩, fun _ => rfl⟩
  | refused hnone _ =>
    refine ⟨_, _, _, rfl, ?_, fun ⟨g, hgrants⟩ => absurd hgrants (hnone g)⟩
    intro hok
    cases hok

theorem Refreshes.replacesIfGranted {result : Except Failure Unit}
    (h : Refreshes held deeds result after) : ReplacesIfGranted held deeds result after := by
  have hsilent : Silent [] := by simp [Silent]
  cases h with
  | renewed hgrants => exact replacesIfGranted_of_grants hsilent hgrants _
  | refused hnone hreports => exact replacesIfGranted_of_reports hsilent hnone hreports

theorem Obtains.replacesIfGranted {result : Except Failure String}
    (h : Obtains held deeds result after) : ReplacesIfGranted held deeds result after := by
  cases h with
  | kept hheld _ => exact hheld ▸ replacesIfGranted_of_silent (by simp [Silent]) _
  | renewed hstale hgrants => exact replacesIfGranted_of_grants hstale.silent hgrants _
  | refused hstale hnone hreports =>
    exact replacesIfGranted_of_reports hstale.silent hnone hreports

end Credentials

namespace Client

open Credentials Service

variable {σ : Type}

/-- A request for data does to the token what the call for a token before it does. -/
theorem Fetches.replacesIfGranted {url : String} {held after : Option AccessToken}
    {deeds : List Deed} {result : Except Failure Value} (h : Fetches url held deeds result after) :
    ReplacesIfGranted held deeds result after := by
  cases h with
  | unsent hobtains =>
    obtain ⟨hgranted, hrefused, hchanged⟩ := hobtains.replacesIfGranted
    refine ⟨hgranted, ?_, hchanged⟩
    intro r reply hasked hnone
    obtain ⟨hsame, f, hf, hreports⟩ := hrefused r reply hasked hnone
    cases hf
    exact ⟨hsame, _, rfl, hreports⟩
  | sent hobtains =>
    obtain ⟨hgranted, hrefused, hchanged⟩ := hobtains.replacesIfGranted
    constructor
    · intro r reply g hasked hgrants
      obtain ⟨now, hinfix, hafter⟩ := hgranted r reply g (by simpa using hasked) hgrants
      exact ⟨now, hinfix.trans (List.prefix_append ..).isInfix, hafter⟩
    · intro r reply hasked hnone
      obtain ⟨-, f, hf, -⟩ := hrefused r reply (by simpa using hasked) hnone
      cases hf
    · intro hdiffers
      obtain ⟨r, reply, g, hasked, hgrants⟩ := hchanged hdiffers
      exact ⟨r, reply, g, by simp [hasked], hgrants⟩

/-- What a call does to a session with the token in use. -/
def Replaces {α : Type} (trace : σ → List Deed) (a : Action σ α) (s : Session σ) : Prop :=
  ∃ deeds, trace (a s).2.outside = trace s.outside ++ deeds ∧
    ReplacesIfGranted s.token deeds (a s).1 (a s).2.token

/-- **A refresh that fails changes nothing, and reports every answer that is not too deep.** A
refresh asks for a token, and succeeds where the reply grants one. It replaces the one in use, as do
calls for a token and requests for data, by one that an answer of success holds, which is then good
from the moment of that refresh on, and only by such a one. Where a reply holds no token the call
fails and the token in use stays: an answer is reported as a failed authentication with its status,
and with its description unless it is one of success; but one that is too deep to be read fails by
its depth, and a lost connection as itself. No answer is too deep that has no more brackets that
open a list or an object than there is room for. -/
theorem failed_refresh_reports_unless_tooDeep (c : Client σ) (a : Credentials)
    (hcredentials : c.credentials = some a) (hasks : a.CanAsk) (trace : σ → List Deed)
    (htraced : c.host.Traces trace) (s : Session σ) :
    (∃ r reply later,
        trace (a.refresh c.host s).2.outside = trace s.outside ++ .askedToken r reply :: later ∧
        ((a.refresh c.host s).1 = .ok () ↔ ∃ g, Grants reply g)) ∧
      Replaces trace (a.refresh c.host) s ∧ Replaces trace (a.obtain c.host) s ∧
      Replaces trace (isValid c.host) s ∧
      (∀ path query, Replaces trace (c.fetch path query) s) ∧
      ∀ r : Response,
        (∀ points ∈ Text.Encoding.decode? r.body,
          points.countP Json.isOpeningPoint ≤ r.room) → ¬IsTooDeep r := by
  obtain ⟨deeds, htrace, hrefreshes⟩ := refreshes hasks htraced s
  refine ⟨?_, ⟨deeds, htrace, hrefreshes.replacesIfGranted⟩, ?_, ?_, ?_,
    fun r => not_isTooDeep_of_openings⟩
  · obtain ⟨r, reply, later, rfl, hsucceeds⟩ := hrefreshes.exists_asked
    exact ⟨r, reply, later, htrace, hsucceeds⟩
  · obtain ⟨deeds, htrace, hobtains⟩ := obtains hasks htraced s
    exact ⟨deeds, htrace, hobtains.replacesIfGranted⟩
  · rcases isValid_cases htraced s with ⟨t, now, w, hheld, _, hvalid, hread⟩ |
      ⟨looked, w, hstale, hvalid, hread⟩
    · rw [Replaces, hvalid, hheld]
      exact ⟨_, hread, replacesIfGranted_of_silent (by simp [Silent]) _⟩
    · rw [Replaces, hvalid]
      exact ⟨_, hread, replacesIfGranted_of_silent hstale.silent _⟩
  · intro path query
    obtain ⟨deeds, htrace, hfetches⟩ := fetches hcredentials hasks htraced path query s
    exact ⟨deeds, htrace, hfetches.replacesIfGranted⟩

/-! ## A refresh that is refused -/

def keys : Credentials :=
  ⟨"https://auth.api", .str "id", .str "secret", [.str "read"], none⟩

theorem canAsk_keys : keys.CanAsk :=
  ⟨⟨["read"], rfl⟩, by simp [keys]⟩

/-- A client with those credentials that answers from a script, with a trace of what it does. -/
def keyed : Client (Traced Replay.Tape) :=
  { plain "https://test.api" Replay.host.tracing with credentials := some keys }

/-- A session with a token in which the next request for another one is refused. -/
def aboutToBeRefused : Session (Traced Replay.Tape) :=
  ⟨⟨⟨[], [], [.answered ⟨401, [], 900⟩], 0, []⟩, []⟩, some ⟨"old", 3600000⟩⟩

theorem refused_refresh_keeps_token :
    keyed.credentials = some keys ∧ keys.CanAsk ∧ keyed.host.Traces Traced.deeds ∧
      (keys.refresh keyed.host aboutToBeRefused).2.token = some ⟨"old", 3600000⟩ ∧
      ∃ message body, (keys.refresh keyed.host aboutToBeRefused).1 =
        .error (.reported (.service .authentication message 401 body none)) := by
  have htraced : keyed.host.Traces Traced.deeds := Host.traces_tracing _
  obtain ⟨-, ⟨deeds, htrace, -, hkeeps, -⟩, -⟩ := failed_refresh_reports_unless_tooDeep keyed keys
    rfl canAsk_keys Traced.deeds htraced aboutToBeRefused
  obtain ⟨r, hdone⟩ : ∃ r, (keys.refresh keyed.host aboutToBeRefused).2.outside.deeds =
      [] ++ [.askedToken r (.answered ⟨401, [], 900⟩)] := ⟨_, rfl⟩
  have hdeeds : deeds = [.askedToken r (.answered ⟨401, [], 900⟩)] :=
    List.append_cancel_left (htrace.symm.trans hdone)
  have hnone : ∀ g, ¬Grants (.answered ⟨401, [], 900⟩) g := by
    intro g hg
    exact absurd hg.1.2 (by decide)
  have hread : ¬IsTooDeep ⟨401, [], 900⟩ := nofun
  obtain ⟨hheld, f, hf, hreports⟩ := hkeeps r _ (by simp [hdeeds]) hnone
  obtain ⟨-, message, body, rfl, -⟩ := hreports.resolve_left fun h => hread h.1
  exact ⟨rfl, canAsk_keys, htraced, hheld, message, body, hf⟩

/-- An answer of the authorization server that begins a hundred thousand lists, one in the other, is
not reported. -/
theorem nested_refusal_is_not_reported :
    ∃ s : Session (Traced Replay.Tape), s.token = some ⟨"old", 3600000⟩ ∧
      (keys.refresh keyed.host s).2.token = some ⟨"old", 3600000⟩ ∧
      (keys.refresh keyed.host s).1 = .error .tooDeep ∧
      ∀ e, (keys.refresh keyed.host s).1 ≠ .error (.reported e) := by
  let reply : Reply := .answered (Response.nested 100000 970)
  let s : Session (Traced Replay.Tape) :=
    ⟨⟨⟨[], [], [reply], 0, []⟩, []⟩, some ⟨"old", 3600000⟩⟩
  have hdeep : (Response.nested 100000 970).json = .error .tooDeep :=
    Response.json_nested (by decide)
  have hgrant : grantOfReply reply = .error .tooDeep := by
    show grantOf (Response.nested 100000 970) = _
    rw [grantOf, content_eq_error.2 ⟨hdeep, rfl⟩]
    rfl
  obtain ⟨r, hrequest⟩ := canAsk_keys.request
  obtain ⟨s', hsend, htoken⟩ : ∃ s', keys.send keyed.host r s = (.ok reply, s') ∧
      s'.token = s.token := ⟨_, rfl, rfl⟩
  have hrun : keys.refresh keyed.host s = (.error .tooDeep, s') := by
    rw [refresh_eq hrequest hsend, hgrant]
  refine ⟨s, rfl, ?_⟩
  rw [hrun]
  exact ⟨htoken, rfl, by simp⟩

end Client

end DataPortal
