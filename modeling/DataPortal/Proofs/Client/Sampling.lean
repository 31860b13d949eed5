import DataPortal.Client.Sampling
import DataPortal.Proofs.Client.Requests
import DataPortal.Proofs.Json.Values
import DataPortal.Proofs.Outcome
import DataPortal.Proofs.Schema.Fields
import DataPortal.Proofs.Service.ErrorAnswer
import DataPortal.Proofs.Service.Reading
import DataPortal.Replay
/-!
# Sampling several models

The schemas of several models are inferred from one answer each. What an answer gives depends on
that answer alone, and an error answer gives an entry without fields, so none of the answers shows
in the entries of the other models. Only an error answer that is too deep to be read ends the whole
run.
-/
namespace DataPortal

open Outcome Service

/-! ## Records of a page -/

namespace Schema

/-- An entry of an object is noted. -/
theorem exists_noteEntry (seen : Seen) {entry : Value × Value}
    (h : entry.1.text?.isSome = true) : ∃ seen', noteEntry seen entry = .ok seen' := by
  obtain ⟨key, v⟩ := entry
  cases key with
  | str s => exact ⟨_, rfl⟩
  | broken t => exact ⟨_, rfl⟩
  | _ => cases h

/-- Objects that were read as JSON have fields. -/
theorem exists_inferFields {records : List Value} (hjson : ∀ v ∈ records, Json.IsJson v)
    (hobjects : ∀ v ∈ records, ∃ entries, v = .dict entries) :
    ∃ fields, inferFields records = .ok fields := by
  have hrecord : ∀ seen, ∀ v ∈ records, ∃ seen', noteRecord seen v = .ok seen' := by
    intro seen v hv
    obtain ⟨entries, rfl⟩ := hobjects v hv
    have hentries := Json.isJson_dict.1 (hjson _ hv)
    exact exists_foldlM (fun seen e he => exists_noteEntry seen (hentries e he).1) seen
  obtain ⟨seen, hseen⟩ := exists_foldlM hrecord []
  rw [inferFields, hseen]
  exact ⟨_, rfl⟩

end Schema

/-- An answer of success that is a page with a list of objects. -/
structure HoldsRecords (r : Response) (records : List Value) : Prop where
  success : 200 ≤ r.status ∧ r.status ≤ 299
  page : ∃ entries, r.json = .ok (.dict entries) ∧
    Value.lookup "_data" entries = some (.list records)
  objects : ∀ v ∈ records, ∃ entries, v = .dict entries

theorem Service.Response.isJson_of_json {r : Response} {v : Value} (h : r.json = .ok v) :
    Json.IsJson v := by
  rw [Response.json] at h
  split at h
  · cases h
  · exact Json.isJson_of_read h

theorem HoldsRecords.isJson {r : Response} {records : List Value} (h : HoldsRecords r records) :
    ∀ v ∈ records, Json.IsJson v := by
  obtain ⟨entries, hjson, hdata⟩ := h.page
  have hentries := Json.isJson_dict.1 (Response.isJson_of_json hjson)
  rw [Value.lookup, Option.map_eq_some_iff] at hdata
  obtain ⟨e, he, hvalue⟩ := hdata
  have hrecords := (hentries e (List.mem_of_find?_eq_some he)).2
  rw [hvalue] at hrecords
  exact Json.isJson_list.1 hrecords

namespace Client

variable {σ : Type} {c : Client σ} {sampleSize : Value} {model : String} {r : Response}
  {reply : Reply} {s : Session σ} {world : σ} {records : List Value}

/-! ## One sample -/

/-- The text of the query for a sample. -/
def sampleQuery : Value → List Char
  | .null => []
  | n => '?' :: Query.clause "limit" n.display

/-- The request for a sample of a model. -/
def sampleRequest (config : Config) (sampleSize : Value) (model : String) : Request :=
  ⟨config.baseUrl ++ modelPath model ++ String.ofList (sampleQuery sampleSize),
    [("Accept", "application/json")]⟩

theorem queryText_sample (sampleSize : Value) :
    queryText (some (Query.empty.withLimit sampleSize)) = .ok (sampleQuery sampleSize) := by
  cases sampleSize <;> rfl

/-- The schema that an answer gives. -/
def schemaIn (model : String) (reply : Reply) : Except Failure ModelSchema :=
  (readReply reply >>= pageData) >>= schemaOf model

/-- One request is sent, and a schema is inferred from what it is answered. -/
theorem inferSchema_eq (hopen : c.credentials = none)
    (hget : c.host.get (sampleRequest c.config sampleSize model) s.outside = (reply, world)) :
    c.inferSchema model sampleSize s = (schemaIn model reply, ⟨world, s.token⟩) := by
  have hfetch : c.fetch (modelPath model) (sampleQuery sampleSize) s =
      (readReply reply, ⟨world, s.token⟩) :=
    fetch_of_headers (headers_of_open hopen s) hget
  have hpage : c.getPage model (some (Query.empty.withLimit sampleSize)) s =
      (readReply reply, ⟨world, s.token⟩) := by
    rw [getPage, queryText_sample]
    exact hfetch
  rw [inferSchema, Action.bind_settle, getAll, Action.bind_settle, hpage, schemaIn]

/-- A page gives the fields of its records and their number. -/
theorem schemaIn_of_holdsRecords (h : HoldsRecords r records) (model : String) :
    ∃ fields, schemaIn model (.answered r) = .ok ⟨model, fields, records.length⟩ := by
  obtain ⟨fields, hfields⟩ := Schema.exists_inferFields h.isJson h.objects
  obtain ⟨entries, hjson, hdata⟩ := h.page
  have hread : readReply (.answered r) = .ok (.dict entries) := by
    rw [readReply, Response.read_of_success h.success]
    exact hjson
  have hpage : pageData (.dict entries) = .ok (.list records) := by
    rw [pageData, member, hdata]
    rfl
  refine ⟨fields, ?_⟩
  calc schemaIn model (.answered r)
    _ = (pageData (.dict entries) >>= schemaOf model) := by rw [schemaIn, hread]; rfl
    _ = schemaOf model (.list records) := by rw [hpage]; rfl
    _ = (Schema.inferFields records >>= fun fields =>
        pure ⟨model, fields, records.length⟩) := rfl
    _ = .ok ⟨model, fields, records.length⟩ := by rw [hfields]; rfl

/-- Any other answer is an error of the service, if it can be read. -/
theorem schemaIn_of_failed (hfailed : ¬(200 ≤ r.status ∧ r.status ≤ 299))
    (hread : ¬r.IsTooDeep) (model : String) :
    ∃ e, schemaIn model (.answered r) = .error (.reported e) ∧ e.isFromService = true := by
  obtain ⟨e, he, hreports⟩ := Response.exists_reports hfailed hread
  refine ⟨e, ?_, hreports.from_service⟩
  rw [schemaIn, Response.readReply_of_check he]
  rfl

theorem schemaIn_of_tooDeep (hfailed : ¬(200 ≤ r.status ∧ r.status ≤ 299)) (hdeep : r.IsTooDeep)
    (model : String) : schemaIn model (.answered r) = .error .tooDeep := by
  rw [schemaIn, Response.readReply_of_check (Response.check_of_tooDeep hfailed hdeep)]
  rfl

/-! ## Several samples -/

/-- What a request for a sample may be answered: an error, or a page with a list of objects. -/
def IsSample (r : Response) : Prop :=
  ¬(200 ≤ r.status ∧ r.status ≤ 299) ∨ ∃ records, HoldsRecords r records

/-- An error answer that is too deep to be read. -/
def Aborts (r : Response) : Prop :=
  ¬(200 ≤ r.status ∧ r.status ≤ 299) ∧ r.IsTooDeep

/-- The schema that is inferred where a script holds one answer and nothing else. -/
def schemaAlone (config : Config) (sampleSize : Value) (model : String) (r : Response) :
    Except Failure ModelSchema :=
  (inferSchema ⟨config, Replay.host, none, false⟩ model sampleSize
    (Replay.start ⟨[], [.answered r], [], 0, []⟩)).1

/-- The entry of a model: the schema that its answer alone gives, or its path alone where the
answer is an error. -/
inductive Entry (config : Config) (sampleSize : Value) (model : String) (r : Response) :
    ModelSchema → Prop
  | sampled {schema : ModelSchema} (hsuccess : 200 ≤ r.status ∧ r.status ≤ 299)
      (halone : schemaAlone config sampleSize model r = .ok schema) :
      Entry config sampleSize model r schema
  | failed (hfailed : ¬(200 ≤ r.status ∧ r.status ≤ 299)) :
      Entry config sampleSize model r ⟨model, [], 0⟩

theorem schemaAlone_eq (config : Config) (sampleSize : Value) (model : String) (r : Response) :
    schemaAlone config sampleSize model r = schemaIn model (.answered r) := by
  have hget : Replay.host.get (sampleRequest config sampleSize model)
      (Replay.start ⟨[], [.answered r], [], 0, []⟩).outside = (.answered r, _) := rfl
  rw [schemaAlone, inferSchema_eq rfl hget]

/-- What one model does to the list: its entry comes first, and the world is as its answer left
it. -/
theorem inferSchemas_cons (hopen : c.credentials = none)
    (hget : c.host.get (sampleRequest c.config sampleSize model) s.outside =
      (.answered r, world)) (hsample : IsSample r) (hgoes : ¬Aborts r) (rest : List String) :
    ∃ schema, Entry c.config sampleSize model r schema ∧ schema.path = model ∧
      c.inferSchemas sampleSize (model :: rest) s =
        (c.inferSchemas sampleSize rest >>= fun schemas => pure (schema :: schemas))
          ⟨world, s.token⟩ := by
  have hrun := inferSchema_eq hopen hget
  have houtcome : (c.inferSchema model sampleSize).outcome s =
      (.ok (schemaIn model (.answered r)), ⟨world, s.token⟩) := by
    rw [Action.outcome, hrun]
  rw [inferSchemas, Action.bind_of_ok houtcome]
  by_cases hsuccess : 200 ≤ r.status ∧ r.status ≤ 299
  · obtain ⟨records, hrecords⟩ := hsample.resolve_left (not_not_intro hsuccess)
    obtain ⟨fields, hschema⟩ := schemaIn_of_holdsRecords hrecords model
    refine ⟨⟨model, fields, records.length⟩, .sampled hsuccess ?_, rfl, ?_⟩
    · rw [schemaAlone_eq, hschema]
    · rw [hschema]
      rfl
  · have hread : ¬r.IsTooDeep := fun hdeep => hgoes ⟨hsuccess, hdeep⟩
    obtain ⟨e, he, hservice⟩ := schemaIn_of_failed hsuccess hread model
    refine ⟨⟨model, [], 0⟩, .failed hsuccess, rfl, ?_⟩
    rw [he]
    simp only [hservice, if_true]
    rfl

/-- An answer that is too deep ends the run, and no other model is asked for. -/
theorem inferSchemas_of_aborts (hopen : c.credentials = none)
    (hget : c.host.get (sampleRequest c.config sampleSize model) s.outside =
      (.answered r, world)) (haborts : Aborts r) (rest : List String) :
    c.inferSchemas sampleSize (model :: rest) s = (.error .tooDeep, ⟨world, s.token⟩) := by
  have houtcome : (c.inferSchema model sampleSize).outcome s =
      (.ok (.error .tooDeep), ⟨world, s.token⟩) := by
    rw [Action.outcome, inferSchema_eq hopen hget, schemaIn_of_tooDeep haborts.1 haborts.2]
  rw [inferSchemas, Action.bind_of_ok houtcome]
  rfl

end Client

/-- What a world answers to requests that are sent one after another, and what it is then. -/
inductive Host.Answers {σ : Type} (h : Host σ) : σ → List Request → List Reply → σ → Prop
  | nil {w : σ} : Answers h w [] [] w
  | cons {w w' w'' : σ} {r : Request} {reply : Reply} {requests : List Request}
      {replies : List Reply} (hget : h.get r w = (reply, w'))
      (hrest : Answers h w' requests replies w'') :
      Answers h w (r :: requests) (reply :: replies) w''

namespace Client

variable {σ : Type} {c : Client σ} {sampleSize : Value} {s : Session σ} {world : σ}
  {noted : σ → List Request}

/-- The requests for samples of some models. -/
def sampleRequests (config : Config) (sampleSize : Value) (samples : List (String × Response)) :
    List Request :=
  samples.map fun p => sampleRequest config sampleSize p.1

/-- A run over models none of whose answers is too deep. -/
theorem inferSchemas_of_readable (hopen : c.credentials = none)
    (hnotes : c.host.Notes (fun r _ => r) noted) {samples : List (String × Response)}
    (hsamples : ∀ p ∈ samples, IsSample p.2) (hgoes : ∀ p ∈ samples, ¬Aborts p.2)
    (hanswers : c.host.Answers s.outside (sampleRequests c.config sampleSize samples)
      (samples.map fun p => .answered p.2) world) :
    ∃ schemas,
      c.inferSchemas sampleSize (samples.map Prod.fst) s = (.ok schemas, ⟨world, s.token⟩) ∧
      noted world = (sampleRequests c.config sampleSize samples).reverse ++ noted s.outside ∧
      schemas.map ModelSchema.path = samples.map Prod.fst ∧
      List.Forall₂ (fun p => Entry c.config sampleSize p.1 p.2) samples schemas := by
  induction samples generalizing s with
  | nil =>
    cases hanswers
    exact ⟨[], rfl, rfl, rfl, .nil⟩
  | cons p samples ih =>
    obtain ⟨model, r⟩ := p
    obtain ⟨hsample, hsamples⟩ := List.forall_mem_cons.1 hsamples
    obtain ⟨hgo, hgoes⟩ := List.forall_mem_cons.1 hgoes
    cases hanswers with
    | @cons _ w' _ _ _ _ _ hget hrest =>
      obtain ⟨schema, hentry, hpath, hcons⟩ :=
        inferSchemas_cons hopen hget hsample hgo (samples.map Prod.fst)
      obtain ⟨schemas, hrun, hnoted, hpaths, hentries⟩ :=
        ih (s := ⟨w', s.token⟩) hsamples hgoes hrest
      have hnote := hnotes.get (sampleRequest c.config sampleSize model) s.outside
      rw [hget] at hnote
      refine ⟨schema :: schemas, ?_, ?_, ?_, .cons hentry hentries⟩
      · rw [List.map_cons, hcons, Action.bind_of_ok hrun]
        rfl
      · rw [hnoted, hnote, sampleRequests, sampleRequests, List.map_cons, List.reverse_cons,
          List.append_assoc]
        rfl
      · rw [List.map_cons, List.map_cons, hpath, hpaths]

/-- A run that gets to an answer which is too deep. -/
theorem inferSchemas_of_tooDeep (hopen : c.credentials = none)
    (hnotes : c.host.Notes (fun r _ => r) noted) {before after : List (String × Response)}
    {p : String × Response} (hbefore : ∀ q ∈ before, IsSample q.2)
    (hgoes : ∀ q ∈ before, ¬Aborts q.2) (haborts : Aborts p.2)
    (hanswers : c.host.Answers s.outside
      (sampleRequests c.config sampleSize (before ++ p :: after))
      ((before ++ p :: after).map fun q => .answered q.2) world) :
    ∃ world',
      c.inferSchemas sampleSize ((before ++ p :: after).map Prod.fst) s =
        (.error .tooDeep, ⟨world', s.token⟩) ∧
      noted world' =
        (sampleRequests c.config sampleSize (before ++ [p])).reverse ++ noted s.outside := by
  induction before generalizing s with
  | nil =>
    obtain ⟨model, r⟩ := p
    cases hanswers with
    | @cons _ w' _ _ _ _ _ hget _ =>
      have hnote := hnotes.get (sampleRequest c.config sampleSize model) s.outside
      rw [hget] at hnote
      exact ⟨w', inferSchemas_of_aborts hopen hget haborts _, hnote⟩
  | cons q before ih =>
    obtain ⟨model, r⟩ := q
    obtain ⟨hsample, hbefore⟩ := List.forall_mem_cons.1 hbefore
    obtain ⟨hgo, hgoes⟩ := List.forall_mem_cons.1 hgoes
    cases hanswers with
    | @cons _ w' _ _ _ _ _ hget hrest =>
      obtain ⟨schema, -, -, hcons⟩ := inferSchemas_cons hopen hget hsample hgo
        ((before ++ p :: after).map Prod.fst)
      obtain ⟨world', hrun, hnoted⟩ := ih (s := ⟨w', s.token⟩) hbefore hgoes hrest
      have hnote := hnotes.get (sampleRequest c.config sampleSize model) s.outside
      rw [hget] at hnote
      refine ⟨world', ?_, ?_⟩
      · rw [List.cons_append, List.map_cons, hcons, Action.bind_of_error hrun]
      · rw [hnoted, hnote, List.cons_append, sampleRequests, sampleRequests, List.map_cons,
          List.reverse_cons, List.append_assoc]
        rfl

/-- **The failure of one model never shows in another, unless it is too deep.** A client without
credentials asks for a sample of each of some models, and the world answers each with an error or a
page with a list of objects. Where no error is too deep to be read, no failure comes out; one
request is sent for each model, in their order; and each has one entry, in their order. The entry of
a model is the schema that is inferred from its answer alone, and where the answer is an error, the
path of the model without fields. The first error that is too deep ends the run instead: there is no
entry for any model, and the models after it are not asked for. -/
theorem inferSchemas_isolates_unless_tooDeep (hopen : c.credentials = none)
    (hnotes : c.host.Notes (fun r _ => r) noted) (samples : List (String × Response))
    (hsamples : ∀ p ∈ samples, IsSample p.2)
    (hanswers : c.host.Answers s.outside (sampleRequests c.config sampleSize samples)
      (samples.map fun p => .answered p.2) world) :
    ((∀ p ∈ samples, ¬Aborts p.2) → ∃ schemas,
      c.inferSchemas sampleSize (samples.map Prod.fst) s = (.ok schemas, ⟨world, s.token⟩) ∧
      noted world = (sampleRequests c.config sampleSize samples).reverse ++ noted s.outside ∧
      schemas.map ModelSchema.path = samples.map Prod.fst ∧
      List.Forall₂ (fun p => Entry c.config sampleSize p.1 p.2) samples schemas) ∧
    (∀ before p after, samples = before ++ p :: after → (∀ q ∈ before, ¬Aborts q.2) →
      Aborts p.2 → ∃ world',
        c.inferSchemas sampleSize (samples.map Prod.fst) s =
          (.error .tooDeep, ⟨world', s.token⟩) ∧
        noted world' =
          (sampleRequests c.config sampleSize (before ++ [p])).reverse ++ noted s.outside) := by
  refine ⟨fun hgoes => inferSchemas_of_readable hopen hnotes hsamples hgoes hanswers, ?_⟩
  rintro before p after rfl hgoes haborts
  exact inferSchemas_of_tooDeep hopen hnotes (fun q hq => hsamples q (by simp [hq])) hgoes haborts
    hanswers

end Client

/-! ## A script for three models -/

namespace Replay

/-- The request for data that an event is. -/
def Event.request? : Event → Option Request
  | .requested r => some r
  | _ => none

/-- The requests in the log of a script, newest first. -/
def requestsSent (t : Tape) : List Request :=
  t.log.filterMap Event.request?

/-- A script notes the requests in its log. -/
theorem notes_host : Replay.host.Notes (fun r _ => r) requestsSent where
  get r t := by
    have hlog : (Tape.get r t).2.log = .requested r :: t.log := by
      rw [Tape.get]
      dsimp only
      split <;> rfl
    show (Tape.get r t).2.log.filterMap Event.request? = _
    rw [hlog]
    rfl
  keeps :=
    { refl := fun _ => rfl
      trans := fun huv hvw => hvw.trans huv
      post := fun _ _ => rfl
      clock := fun _ => rfl
      stopwatch := fun _ => rfl
      sleep := fun _ _ => rfl
      connection := fun _ _ => rfl }

end Replay

namespace Client

/-- A page with one record. -/
def recordPage : Response :=
  pageResponse "\x7b\"_data\":[\x7b\"a\":1\x7d]\x7d"

/-- A service that is out of order. -/
def outage : Response :=
  ⟨503, [], 900⟩

theorem holdsRecords_recordPage : HoldsRecords recordPage [.dict [(.str "a", .int 1)]] where
  success := by decide
  page := ⟨[(.str "_data", .list [.dict [(.str "a", .int 1)]])],
    json_page [.openObject, .scalar (.str "_data"), .colon, .openList, .openObject,
      .scalar (.str "a"), .colon, .scalar (.int 1), .closeObject, .closeList, .closeObject]
      rfl rfl rfl, rfl⟩
  objects := by simp

/-- Three models, and the answers to their requests. -/
def samples : List (String × Response) :=
  [("a", recordPage), ("b", outage), ("c", recordPage)]

/-- A script of these answers. -/
def threeAnswers : Replay.Tape :=
  ⟨[], samples.map fun p => .answered p.2, [], 0, []⟩

theorem inferSchemas_around_outage :
    (plain "https://test.api" Replay.host).credentials = none ∧
      (∀ p ∈ samples, IsSample p.2) ∧ (∀ p ∈ samples, ¬Aborts p.2) ∧
      ∃ first last world,
        (plain "https://test.api" Replay.host).inferSchemas (.int 5) ["a", "b", "c"]
            (Replay.start threeAnswers) =
          (.ok [first, ⟨"b", [], 0⟩, last], ⟨world, none⟩) ∧
        (Replay.requestsSent world).map Request.url =
          ["https://test.api/c?limit(5)", "https://test.api/b?limit(5)",
            "https://test.api/a?limit(5)"] ∧
        first.path = "a" ∧ last.path = "c" := by
  have hpage := holdsRecords_recordPage.success
  have hread : ¬outage.IsTooDeep := nofun
  have hoff : ¬(200 ≤ outage.status ∧ outage.status ≤ 299) := by decide
  have hsamples : ∀ p ∈ samples, IsSample p.2 := by
    simp only [samples, List.forall_mem_cons]
    exact ⟨.inr ⟨_, holdsRecords_recordPage⟩, .inl hoff, .inr ⟨_, holdsRecords_recordPage⟩,
      by simp⟩
  have hgoes : ∀ p ∈ samples, ¬Aborts p.2 := by
    simp only [samples, List.forall_mem_cons]
    exact ⟨fun h => h.1 hpage, fun h => hread h.2, fun h => h.1 hpage, by simp⟩
  refine ⟨rfl, hsamples, hgoes, ?_⟩
  have hanswers : Replay.host.Answers (Replay.start threeAnswers).outside
      (sampleRequests (plain "https://test.api" Replay.host).config (.int 5) samples)
      (samples.map fun p => .answered p.2) _ :=
    .cons rfl (.cons rfl (.cons rfl .nil))
  obtain ⟨schemas, hrun, hnoted, hpaths, hentries⟩ :=
    (inferSchemas_isolates_unless_tooDeep (c := plain "https://test.api" Replay.host) rfl
      Replay.notes_host samples hsamples hanswers).1 hgoes
  cases hentries with
  | @cons _ first _ _ _ hrest =>
    cases hrest with
    | @cons _ second _ _ hsecond hrest =>
      cases hrest with
      | @cons _ last _ _ _ hrest =>
        cases hrest
        cases hsecond with
        | sampled hsuccess _ => exact absurd hsuccess hoff
        | failed _ =>
          simp only [List.map_cons, List.map_nil, samples, List.cons.injEq] at hpaths
          refine ⟨first, last, _, hrun, ?_, hpaths.1, hpaths.2.2.1⟩
          rw [hnoted]
          decide

/-- An error answer that begins a hundred thousand lists, one in the other, loses the model after it
too. -/
theorem nested_answer_ends_sampling :
    ∃ world,
      (plain "https://test.api" Replay.host).inferSchemas (.int 5) ["a", "b"]
          (Replay.start ⟨[], [.answered (Response.nested 100000 970), .answered recordPage], [],
            0, []⟩) =
        (.error .tooDeep, ⟨world, none⟩) ∧
      HoldsRecords recordPage [.dict [(.str "a", .int 1)]] ∧
      (Replay.requestsSent world).map Request.url = ["https://test.api/a?limit(5)"] := by
  have hfailed : ¬(200 ≤ (Response.nested 100000 970).status ∧
      (Response.nested 100000 970).status ≤ 299) := by
    rw [Response.nested]
    decide
  have haborts : Aborts (Response.nested 100000 970) :=
    ⟨hfailed, Response.isTooDeep_nested (by decide)⟩
  exact ⟨_, inferSchemas_of_aborts (c := plain "https://test.api" Replay.host) rfl rfl haborts _,
    holdsRecords_recordPage, rfl⟩

end Client

end DataPortal
