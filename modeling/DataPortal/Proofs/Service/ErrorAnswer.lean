import DataPortal.Client.Basic
import DataPortal.Failure.Kind
import DataPortal.Proofs.Json.Depth
import DataPortal.Proofs.Text.Utf8
/-!
# Error answers

An answer that is none of success is one error of the library, whatever its bytes are, unless more
lists and objects lie in one another than can be read. The kind of the error follows the status.
Its body is the JSON object that the text of the answer is, if it is one, and its message is the
one that this object holds, or else the phrase of the status, or its number.
-/
namespace DataPortal.Service

/-- The statuses whose errors have a kind of their own. -/
def statusKinds : List (Int × ErrorKind) :=
  [(400, .validation), (401, .authentication), (403, .authentication), (404, .notFound),
   (429, .rateLimit)]

/-- The kind of the errors of a status. -/
def kindOf (status : Int) : ErrorKind :=
  (statusKinds.lookup status).getD .service

/-- No status has two phrases. -/
theorem nodup_phrases : (phrases.map Prod.fst).Nodup := by
  decide

theorem lookup_of_nodup {β : Type} {entries : List (Int × β)} {key : Int} {b : β}
    (hnodup : (entries.map Prod.fst).Nodup) (h : (key, b) ∈ entries) :
    entries.lookup key = some b := by
  induction entries with
  | nil => simp at h
  | cons e rest ih =>
    obtain ⟨k, c⟩ := e
    rw [List.map_cons, List.nodup_cons] at hnodup
    cases h with
    | head => simp
    | tail _ h =>
      have hne : key ≠ k := by
        rintro rfl
        exact hnodup.1 (List.mem_map.2 ⟨_, h, rfl⟩)
      rw [List.lookup_cons, beq_false_of_ne hne]
      exact ih hnodup.2 h

theorem describe_of_mem {status : Int} {phrase : String} (h : (status, phrase) ∈ phrases) :
    describe status = phrase := by
  rw [describe, lookup_of_nodup nodup_phrases h]
  rfl

theorem describe_of_not_mem {status : Int} (h : ∀ phrase, (status, phrase) ∉ phrases) :
    describe status = "HTTP " ++ toString status := by
  have hnone : phrases.lookup status = none := by
    rw [List.lookup_eq_none_iff]
    rintro ⟨s, phrase⟩ hmem
    have hne : status ≠ s := by
      rintro rfl
      exact h phrase hmem
    simpa using hne
  rw [describe, hnone]
  rfl

/-! ## What the body says -/

/-- The message that an object tells: its own, if that is a text, and else that of the first of its
errors. -/
inductive Tells (entries : List (Value × Value)) : LooseText → Prop
  | own {s : LooseText} (hown : (Value.entry "message" entries).text? = some s) : Tells entries s
  | first {s : LooseText} {first : List (Value × Value)} {rest : List Value}
      (hnone : (Value.entry "message" entries).text? = none)
      (herrors : Value.entry "errors" entries = .list (.dict first :: rest))
      (hfirst : (Value.entry "message" first).text? = some s) : Tells entries s

theorem tells_iff {entries : List (Value × Value)} {s : LooseText} :
    Tells entries s ↔ messageIn? entries = some s := by
  constructor
  · intro h
    cases h with
    | own hown => rw [messageIn?, hown]
    | first hnone herrors hfirst =>
      rw [messageIn?, hnone, herrors]
      exact hfirst
  · intro h
    rw [messageIn?] at h
    split at h
    · rename_i hown
      cases h
      exact .own hown
    · rename_i hnone
      split at h
      · rename_i herrors
        exact .first hnone herrors h
      · cases h

namespace Response

variable {r : Response} {entries : List (Value × Value)} {s : LooseText} {e : PortalError}

/-- The text of the answer is a JSON object with these entries. -/
def Holds (r : Response) (entries : List (Value × Value)) : Prop :=
  r.errorJson = .ok (.dict entries)

/-- The answer tells a message. -/
def Says (r : Response) (s : LooseText) : Prop :=
  ∃ entries, r.Holds entries ∧ Tells entries s

/-- More lists and objects of the text lie in one another than can be read. -/
def IsTooDeep (r : Response) : Prop :=
  r.errorJson = .error .tooDeep

theorem failure_of_errorEntries {f : Failure} (h : r.errorEntries = .error f) : f = .tooDeep := by
  rw [errorEntries] at h
  split at h <;> cases h
  rfl

theorem isTooDeep_iff : r.IsTooDeep ↔ r.errorEntries = .error .tooDeep := by
  rw [IsTooDeep, errorEntries]
  constructor
  · intro h
    rw [h]
  · intro h
    split at h
    · cases h
    · assumption
    · cases h

/-- Unless it is too deep, an answer is an object or none. -/
theorem exists_errorEntries (h : ¬r.IsTooDeep) : ∃ held, r.errorEntries = .ok held := by
  rw [isTooDeep_iff, errorEntries] at h
  rw [errorEntries]
  split at h
  · exact ⟨_, rfl⟩
  · exact absurd rfl h
  · exact ⟨_, rfl⟩

theorem holds_iff : r.Holds entries ↔ r.errorEntries = .ok (some entries) := by
  rw [Holds, errorEntries]
  constructor
  · intro h
    rw [h]
  · intro h
    split at h
    · cases h
      assumption
    · cases h
    · cases h

/-- The number of its characters that open a list or an object where they are marks. -/
def openings (r : Response) : Nat :=
  ((Text.Utf8.decodeLossy r.body).map CodePoint.char).countP Json.isOpeningPoint

theorem not_isTooDeep_of_openings (h : r.openings ≤ r.room) : ¬r.IsTooDeep :=
  Json.read_ne_tooDeep h

/-- The text of an answer in UTF-8. -/
theorem errorJson_encode {status : Int} {text : List Char} {room : Nat} :
    errorJson ⟨status, Text.Utf8.encode text, room⟩ = Json.read room (text.map .char) := by
  rw [errorJson, Text.Utf8.decodeLossy_encode]

/-- A byte order mark is a part of the text, which then is no JSON. -/
theorem errorJson_byteOrderMark {status : Int} {text : List Char} {room : Nat} :
    errorJson ⟨status, Text.Utf8.encode ('\uFEFF' :: text), room⟩ = .error .notJson := by
  have htokens : Json.tokens .between ((('\uFEFF' :: text).map .char)) = [.fault .notJson] := by
    rw [List.map_cons, Json.tokens, if_neg (by decide), if_neg (by decide), if_neg (by decide)]
    rfl
  rw [errorJson_encode, Json.read, htokens]
  rfl

/-! ## The error of an answer -/

/-- A detail with which an error is shown. -/
def detail? (e : PortalError) (name : String) : Option Value :=
  (ErrorReport.ofError e).details.lookup name

/-- An error reports an answer: it is of the kind of its status, and it shows that status, the
object of the answer or null, and a message. The message is the one that the answer tells. Where
it tells none, it is the phrase of the status, and the number of a status without a phrase; and it
is the one that is chosen for the body shown, so the choice of a message never fails. -/
structure Reports (r : Response) (e : PortalError) : Prop where
  from_service : e.isFromService = true
  kind : e.kind = kindOf r.status
  status : detail? e "status" = some (.int r.status)
  object : ∀ entries, r.Holds entries → detail? e "body" = some (.dict entries)
  no_object : (∀ entries, ¬r.Holds entries) → detail? e "body" = some .null
  told : ∀ s, r.Says s → e.message = s
  phrase : (∀ s, ¬r.Says s) → ∀ phrase, (r.status, phrase) ∈ phrases → e.message = .sound phrase
  number : (∀ s, ¬r.Says s) → (∀ phrase, (r.status, phrase) ∉ phrases) →
    e.message = .sound ("HTTP " ++ toString r.status)
  chosen : ∃ body, detail? e "body" = some body ∧
    Service.errorMessage body (.str (describe r.status)) = .ok (.ofText e.message)

theorem isSuccess_iff : r.isSuccess = true ↔ 200 ≤ r.status ∧ r.status ≤ 299 := by
  simp [isSuccess, isSuccessStatus]

/-- The message for the entries of an answer. -/
def messageOf (status : Int) (held : Option (List (Value × Value))) : LooseText :=
  (held.bind messageIn?).getD (describe status)

/-- The kind of an error of the service, and what it shows of the answer. -/
theorem errorOf_shows (status : Int) (held : Option (List (Value × Value))) :
    (errorOf status held).isFromService = true ∧ (errorOf status held).kind = kindOf status ∧
      detail? (errorOf status held) "status" = some (.int status) ∧
      detail? (errorOf status held) "body" = some (errorBody held) ∧
      (errorOf status held).message = messageOf status held := by
  by_cases h400 : status = 400
  · subst h400
    exact ⟨rfl, rfl, rfl, rfl, rfl⟩
  by_cases h404 : status = 404
  · subst h404
    exact ⟨rfl, rfl, rfl, rfl, rfl⟩
  by_cases h429 : status = 429
  · subst h429
    exact ⟨rfl, rfl, rfl, rfl, rfl⟩
  by_cases hdenied : status = 401 ∨ status = 403
  · have hkind : kindOf status = .authentication := by
      obtain h | h := hdenied <;> rw [h] <;> rfl
    rw [errorOf, if_neg h400, if_pos hdenied, hkind]
    exact ⟨rfl, rfl, rfl, rfl, rfl⟩
  · have hkind : kindOf status = .service := by
      have hnone : statusKinds.lookup status = none := by
        rw [List.lookup_eq_none_iff]
        simp [statusKinds]
        omega
      rw [kindOf, hnone]
      rfl
    rw [errorOf, if_neg h400, if_neg hdenied, if_neg h404, if_neg h429, hkind]
    exact ⟨rfl, rfl, rfl, rfl, rfl⟩

/-- The message is the one that is chosen for the body, which is no failure: the body is an object
or null. -/
theorem errorMessage_errorBody (status : Int) (held : Option (List (Value × Value))) :
    Service.errorMessage (errorBody held) (.str (describe status)) =
      .ok (.ofText (messageOf status held)) := by
  cases held with
  | none => rfl
  | some entries =>
    rw [errorBody, Service.errorMessage, messageOf, Option.bind_some]
    cases messageIn? entries <;> rfl

theorem says_iff {held : Option (List (Value × Value))} (h : r.errorEntries = .ok held) :
    r.Says s ↔ held.bind messageIn? = some s := by
  simp only [Says, holds_iff, h, tells_iff, Except.ok.injEq, Option.bind_eq_some_iff]

theorem messageOf_of_silent {held : Option (List (Value × Value))}
    (h : r.errorEntries = .ok held) (hsilent : ∀ s, ¬r.Says s) :
    messageOf r.status held = describe r.status := by
  have hnone : held.bind messageIn? = none := by
    rw [Option.eq_none_iff_forall_ne_some]
    exact fun s hs => hsilent s ((says_iff h).2 hs)
  rw [messageOf, hnone]
  rfl

/-- The error for the entries of an answer reports it. -/
theorem reports_errorOf {held : Option (List (Value × Value))} (h : r.errorEntries = .ok held) :
    r.Reports (errorOf r.status held) := by
  obtain ⟨hservice, hkind, hstatus, hbody, hmessage⟩ := errorOf_shows r.status held
  constructor
  case from_service => exact hservice
  case kind => exact hkind
  case status => exact hstatus
  case object =>
    intro entries hentries
    rw [holds_iff, h] at hentries
    cases hentries
    exact hbody
  case no_object =>
    intro hnone
    cases held with
    | none => exact hbody
    | some entries => exact absurd (holds_iff.2 h) (hnone entries)
  case told =>
    intro s hs
    rw [hmessage, messageOf, (says_iff h).1 hs]
    rfl
  case phrase =>
    intro hsilent phrase hphrase
    rw [hmessage, messageOf_of_silent h hsilent, describe_of_mem hphrase]
  case number =>
    intro hsilent hnone
    rw [hmessage, messageOf_of_silent h hsilent, describe_of_not_mem hnone]
  case chosen =>
    refine ⟨_, hbody, ?_⟩
    rw [hmessage, errorMessage_errorBody]

/-! ## What an answer comes to -/

theorem check_of_success (h : 200 ≤ r.status ∧ r.status ≤ 299) : r.check = .ok () := by
  rw [check, if_pos (isSuccess_iff.2 h)]

theorem check_of_failed (h : ¬(200 ≤ r.status ∧ r.status ≤ 299)) :
    r.check = (r.errorEntries >>= fun held => .error (.reported (errorOf r.status held))) := by
  rw [check, if_neg (mt isSuccess_iff.1 h)]
  rfl

/-- An answer that is none of success and not too deep is reported. -/
theorem exists_reports (hfailed : ¬(200 ≤ r.status ∧ r.status ≤ 299)) (h : ¬r.IsTooDeep) :
    ∃ e, r.check = .error (.reported e) ∧ r.Reports e := by
  obtain ⟨held, hheld⟩ := exists_errorEntries h
  refine ⟨_, ?_, reports_errorOf hheld⟩
  rw [check_of_failed hfailed, hheld]
  rfl

theorem check_of_tooDeep (hfailed : ¬(200 ≤ r.status ∧ r.status ≤ 299)) (h : r.IsTooDeep) :
    r.check = .error .tooDeep := by
  rw [check_of_failed hfailed, isTooDeep_iff.1 h]
  rfl

theorem readReply_of_check {f : Failure} (h : r.check = .error f) :
    Client.readReply (.answered r) = .error f := by
  rw [Client.readReply, read, h]
  rfl

/-- A body that is no JSON is no failure that the library reports. -/
theorem json_ne_reported (r : Response) (e : PortalError) : r.json ≠ .error (.reported e) := by
  intro h
  rw [json] at h
  split at h
  · cases h
  · obtain (h | h) | h := Json.failure_of_read h <;> cases h

theorem read_of_success (h : 200 ≤ r.status ∧ r.status ≤ 299) : r.read = r.json := by
  rw [read, check_of_success h]
  rfl

/-- **An answer is one of success or one error, unless it is too deep.** Checking an answer
succeeds exactly where its status is one of success. Any other answer, whatever its bytes are, is
an error of the service that reports it, and nothing else comes of reading the answer; except that
one which is too deep is not reported: reading it fails by its depth. It is not too deep where it
has no more brackets that open a list or an object than there is room for. -/
theorem check_reports_unless_tooDeep (r : Response) :
    (r.check = .ok () ↔ 200 ≤ r.status ∧ r.status ≤ 299) ∧
      ((200 ≤ r.status ∧ r.status ≤ 299) ∨
        (¬r.IsTooDeep ∧ ∃ e, r.check = .error (.reported e) ∧
          Client.readReply (.answered r) = .error (.reported e) ∧ r.Reports e) ∨
        (r.IsTooDeep ∧ r.check = .error .tooDeep ∧
          Client.readReply (.answered r) = .error .tooDeep)) ∧
      (r.openings ≤ r.room → ¬r.IsTooDeep) := by
  refine ⟨⟨fun hok => ?_, check_of_success⟩, ?_, not_isTooDeep_of_openings⟩
  · by_contra hfailed
    rw [check_of_failed hfailed] at hok
    obtain ⟨held, -, hheld⟩ := Outcome.bind_eq_ok.1 hok
    cases hheld
  · by_cases hsuccess : 200 ≤ r.status ∧ r.status ≤ 299
    · exact .inl hsuccess
    · by_cases hdeep : r.IsTooDeep
      · have hcheck := check_of_tooDeep hsuccess hdeep
        exact .inr (.inr ⟨hdeep, hcheck, readReply_of_check hcheck⟩)
      · obtain ⟨e, hcheck, hreports⟩ := exists_reports hsuccess hdeep
        exact .inr (.inl ⟨hdeep, e, hcheck, readReply_of_check hcheck, hreports⟩)

/-- Bytes that encode nothing leave the status to speak. -/
example : (Response.mk 503 [0xEF, 0xBB] 900).check =
    .error (.reported (.service .other "Service Unavailable" 503 .null none)) := rfl

/-! ## An answer that is too deep -/

/-- An error answer that begins so many lists, one in the other. -/
def nested (n room : Nat) : Response :=
  ⟨500, Text.Utf8.encode (List.replicate n '['), room⟩

theorem isTooDeep_nested {n room : Nat} (h : room < n) : (nested n room).IsTooDeep := by
  have hdeep := Json.read_brackets h []
  rwa [Json.brackets, List.append_nil, ← List.map_replicate, ← errorJson_encode] at hdeep

/-- Read as one of success it would be too deep as well. -/
theorem json_nested {n room : Nat} (h : room < n + 4) :
    (nested (n + 4) room).json = .error .tooDeep := by
  have hdetect : Text.Encoding.detect (Text.Utf8.encode (List.replicate (n + 4) '[')) =
      (.utf8, Text.Utf8.encode (List.replicate (n + 4) '[')) := rfl
  have htext : Text.Encoding.decode? (Text.Utf8.encode (List.replicate (n + 4) '[')) =
      some ((List.replicate (n + 4) '[').map .char) := by
    rw [Text.Encoding.decode?, hdetect]
    exact Text.Utf8.decodePassing?_encode _
  rw [json, nested, htext]
  dsimp only
  rw [List.map_replicate, ← List.append_nil (List.replicate (n + 4) _)]
  exact Json.read_brackets h []

theorem nested_answer_is_not_reported :
    ¬(200 ≤ (nested 100000 970).status ∧ (nested 100000 970).status ≤ 299) ∧
      (nested 100000 970).check = .error .tooDeep ∧
      ∀ e, (nested 100000 970).check ≠ .error (.reported e) := by
  have hfailed : ¬(200 ≤ (nested 100000 970).status ∧ (nested 100000 970).status ≤ 299) := by
    rw [nested]
    decide
  have hcheck := check_of_tooDeep hfailed (isTooDeep_nested (by decide))
  refine ⟨hfailed, hcheck, fun e => ?_⟩
  rw [hcheck]
  simp

end Response

end DataPortal.Service
