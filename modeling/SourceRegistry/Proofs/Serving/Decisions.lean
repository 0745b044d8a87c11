import SourceRegistry.Proofs.Serving.Effects

/-!
# How a request to create a data source is decided

The workspace is checked first, then the body, the lengths of its texts as they came, what is
left of them without the white space around, and the name. A `Decision` says what each of these
checks finds and how the first that fails is reported.
-/

namespace SourceRegistry

open Http (Response)
open SiteMap (sourcesPath)

/-- A body that is announced as JSON, is not longer than the limit, and holds `c`. -/
structure Arrival.Holds (limit : Nat) (a : Arrival) (c : CreateRequest) : Prop where
  announced : Extract.announcesJson a.request
  length : a.request.body.length ≤ limit
  decoded : ∃ rest, CreateRequest.form.decoder Json.depthLimit
    (Text.Symbol.ofBytes a.request.body) = .ok (c, rest)

namespace CreateRequest

/-- The fields whose texts have the wrong number of characters as they came, with the most that
they may have and the texts. -/
def badLengths (c : CreateRequest) : List (String × Nat × String) :=
  (if 1 ≤ c.name.length ∧ c.name.length ≤ 100 then [] else [("name", 100, c.name)])
    ++ (if 1 ≤ c.pluginSrc.length ∧ c.pluginSrc.length ≤ 255 then []
      else [("plugin_src", 255, c.pluginSrc)])

/-- What is told of a field whose text has the wrong number of characters. -/
def lengthDetails (bad : String × Nat × String) : List String :=
  ["\x22min\x22: Number(1)", "\x22max\x22: Number(" ++ toString bad.2.1 ++ ")",
    "\x22value\x22: String(" ++ Text.quoted bad.2.2 ++ ")"]

/-- A message with one line for each text that has the wrong number of characters, and with all
details of it; lines and details are in any order. -/
def TellsLengths (c : CreateRequest) (message : String) : Prop :=
  ∃ (bads : List (String × Nat × String)) (details : String × Nat × String → List String),
    bads.Perm c.badLengths ∧ (∀ bad, (details bad).Perm (lengthDetails bad)) ∧
    message = "\n".intercalate (bads.map fun bad => bad.1 ++
      ": Validation error: length [\x7b" ++ ", ".intercalate (details bad) ++ "\x7d]")

def badFields (c : CreateRequest) : List (String × String) :=
  (if (c.data.getD .null).isObject ∨ (c.data.getD .null).isNull then []
    else [("data", "must be a JSON object")])
    ++ (if Text.trim c.name = "" then [("name", "must not be blank")] else [])
    ++ (if Text.trim c.pluginSrc = "" then [("pluginSrc", "must not be blank")] else [])

end CreateRequest

def validationBody (message : String) : String :=
  (ErrorBody.toJson ⟨"VALIDATION_FAILED", message, none⟩).text

/-- How a request to create a data source is decided, check by check. -/
structure Decision (limit : Nat) (s : Store) (a : Arrival) (r : Response) : Prop where
  noWorkspace : (∀ raw w, a.request.header? "workspaceid" = some raw → Http.isPlain raw →
    WorkspaceId.ofString? raw ≠ some w) → r.status = 400
  noRequest : ∀ w, a.IsFor w → (∀ c, ¬ a.Holds limit c) → r.status = 400
  badLengths : ∀ w c, a.IsFor w → a.Holds limit c → c.badLengths ≠ [] →
    r.status = 422 ∧
      ∃ message, c.TellsLengths message ∧ r.body = validationBody ("Validation error: " ++ message)
  badFields : ∀ w c, a.IsFor w → a.Holds limit c → c.badLengths = [] → c.badFields ≠ [] →
    r.status = 422 ∧ r.body = validationBody ("Validation failed: " ++
      "; ".intercalate (c.badFields.map fun (field, fault) => field ++ ": " ++ fault))
  nameTaken : ∀ w c, a.IsFor w → a.Holds limit c → c.badLengths = [] → c.badFields = [] →
    (∃ d ∈ s, d.workspace = w ∧ Text.lower d.name = Text.lower (Text.trim c.name)) →
    r.status = 409
  created : ∀ w c, a.IsFor w → a.Holds limit c → c.badLengths = [] → c.badFields = [] →
    (¬ ∃ d ∈ s, d.workspace = w ∧ Text.lower d.name = Text.lower (Text.trim c.name)) →
    r.status = 201

/-! ## Reading the request -/

namespace Extract

variable {limit : Nat} {a : Arrival} {c : CreateRequest}

theorem workspace_eq_of_not_isFor (h : ∀ w, ¬ a.IsFor w) :
    ∃ detail, workspace a.request = .error (.badRequest detail) := by
  cases hw : workspace a.request with
  | ok w => exact absurd hw (h w)
  | error e =>
    rw [workspace] at hw
    split at hw
    · exact ⟨_, congrArg _ (Except.error.inj hw).symm⟩
    · split at hw
      · split at hw
        · cases hw
        · exact ⟨_, congrArg _ (Except.error.inj hw).symm⟩
      · exact ⟨_, congrArg _ (Except.error.inj hw).symm⟩

theorem json_eq_of_holds (h : a.Holds limit c) :
    json CreateRequest.form.decoder limit a.request = .ok c := by
  obtain ⟨rest, hd⟩ := h.decoded
  have hl : ¬ limit < a.request.body.length := Nat.not_lt.2 h.length
  rw [json, if_neg (by simp [h.announced]), if_neg hl]
  simp only [hd]

theorem json_eq_of_not_holds (h : ∀ c, ¬ a.Holds limit c) :
    ∃ detail, json CreateRequest.form.decoder limit a.request = .error (.badRequest detail) := by
  rw [json]
  by_cases ha : announcesJson a.request
  · by_cases hl : limit < a.request.body.length
    · exact ⟨_, by rw [if_neg (by simp [ha]), if_pos hl]⟩
    · rw [if_neg (by simp [ha]), if_neg hl]
      cases hd : CreateRequest.form.decoder Json.depthLimit
        (Text.Symbol.ofBytes a.request.body) with
      | error f => exact ⟨_, by simp only [hd]; rfl⟩
      | ok found => exact absurd ⟨ha, Nat.not_lt.1 hl, found.2, hd⟩ (h found.1)
  · exact ⟨_, by rw [if_pos (by simp [ha])]⟩

def faultOf (bad : String × Nat × String) : LengthFault := ⟨bad.1, 1, bad.2.1, bad.2.2⟩

theorem toList_lengthFault? (field text : String) (max : Nat) :
    (CreateRequest.lengthFault? field text max).toList =
      (if 1 ≤ text.length ∧ text.length ≤ max then [] else [(field, max, text)]).map faultOf := by
  unfold CreateRequest.lengthFault?
  split <;> rfl

theorem lengthFaults_eq (c : CreateRequest) : c.lengthFaults = c.badLengths.map faultOf := by
  rw [CreateRequest.lengthFaults, CreateRequest.badLengths, toList_lengthFault?,
    toList_lengthFault?, ← List.map_append]
  rfl

theorem map_detail_faultOf (bad : String × Nat × String) :
    LengthFault.Detail.all.map (faultOf bad).detail = CreateRequest.lengthDetails bad := by
  have hmin : "\x22min\x22: Number(" ++ toString 1 ++ ")" = "\x22min\x22: Number(1)" := by decide
  simp only [LengthFault.Detail.all, List.map_cons, List.map_nil, LengthFault.detail, faultOf, hmin,
    CreateRequest.lengthDetails]

theorem tellsLengths (order : LengthOrder) (c : CreateRequest) :
    c.TellsLengths (lengthMessage order c.lengthFaults) := by
  let bad (f : LengthFault) : String × Nat × String := (f.field, f.greatest, f.value)
  refine ⟨(order.faults c.lengthFaults).map bad,
    fun b => (order.details (faultOf b)).map (faultOf b).detail, ?_, fun b => ?_, ?_⟩
  · have hbads : c.lengthFaults.map bad = c.badLengths := by
      rw [lengthFaults_eq, List.map_map]
      exact List.map_id _
    exact hbads ▸ (order.faults_perm _).map bad
  · rw [← map_detail_faultOf]
    exact (order.details_perm (faultOf b)).map (faultOf b).detail
  · have hfault : ∀ f ∈ order.faults c.lengthFaults, faultOf (bad f) = f := by
      intro f hf
      have hmem := (order.faults_perm _).mem_iff.1 hf
      rw [lengthFaults_eq] at hmem
      obtain ⟨b, -, rfl⟩ := List.mem_map.1 hmem
      rfl
    rw [lengthMessage, List.map_map]
    refine congrArg _ (List.map_congr_left fun f hf => ?_)
    simp only [Function.comp, hfault f hf]
    rfl

theorem createRequest_eq (h : a.Holds limit c) (order : LengthOrder) :
    createRequest order limit a.request =
      if c.badLengths = [] then .ok c
      else .error (.validation (lengthMessage order c.lengthFaults)) := by
  have hnil : c.lengthFaults = [] ↔ c.badLengths = [] := by
    rw [lengthFaults_eq, List.map_eq_nil_iff]
  rw [createRequest, json_eq_of_holds h]
  by_cases hb : c.badLengths = []
  · simp [bind, Except.bind, if_pos hb, hnil.2 hb]
  · rw [if_neg hb]
    simp only [bind, Except.bind]
    split
    · next he => exact absurd (hnil.1 he) hb
    · rfl

theorem createRequest_eq_of_not_holds (h : ∀ c, ¬ a.Holds limit c) (order : LengthOrder) :
    ∃ detail, createRequest order limit a.request = .error (.badRequest detail) := by
  obtain ⟨detail, hd⟩ := json_eq_of_not_holds h
  exact ⟨detail, by rw [createRequest, hd]; rfl⟩

end Extract

namespace CreateRequest

variable {c : CreateRequest}

/-- A text that was not too long is not too long without the white space around it. -/
theorem textFaults_of_length_le {text : String} {max : Nat} (h : text.length ≤ max) :
    textFaults text max = if Text.trim text = "" then ["must not be blank"] else [] := by
  have hl : ¬ max < (Text.trim text).length := Nat.not_lt.2 ((Text.length_trim_le text).trans h)
  rw [textFaults, if_neg hl]
  simp only [String.length_eq_zero_iff]

theorem length_le_of_badLengths (h : c.badLengths = []) :
    c.name.length ≤ 100 ∧ c.pluginSrc.length ≤ 255 := by
  unfold badLengths at h
  rw [List.append_eq_nil_iff] at h
  constructor
  · by_contra hn
    simp [hn] at h
  · by_contra hp
    simp [hp] at h

theorem faults_toDraft (h : c.badLengths = []) :
    c.toDraft.faults = c.badFields.map fun (field, fault) => field ++ ": " ++ fault := by
  obtain ⟨hn, hp⟩ := length_le_of_badLengths h
  have hname : textFaults c.toDraft.name 100 = _ := textFaults_of_length_le hn
  have hsrc : textFaults c.toDraft.pluginSrc 255 = _ := textFaults_of_length_le hp
  rw [Draft.faults, badFields, hname, hsrc, List.map_append, List.map_append]
  refine congrArg₂ _ (congrArg₂ _ ?_ ?_) ?_
  · change (if (c.data.getD .null).isObject ∨ (c.data.getD .null).isNull then _ else _) = _
    split <;> rfl
  · change (if Text.trim c.name = "" then _ else _ : List String).map _ = _
    split
    · decide
    · rfl
  · change (if Text.trim c.pluginSrc = "" then _ else _ : List String).map _ = _
    split
    · decide
    · rfl

end CreateRequest

/-! ## The whole decision -/

namespace App

variable (settings : Settings) {sites : SiteMap} {a : Arrival} {s : Store} {w : WorkspaceId}
  {c : CreateRequest} {e : ApiError}

/-- A refusal before the use case is sent as it is. -/
theorem serve_refused (ht : settings.timeoutSeconds ≠ 0) (hp : a.Finds sites)
    (hm : a.request.method = "POST")
    (he : Extract.workspace a.request = .error e ∨
      (∃ w, a.IsFor w) ∧
        Extract.createRequest a.lengthOrder settings.maxBodySize a.request = .error e) :
    ((standard settings).serve sites a s).Sends (Reply.error e) s := by
  obtain ⟨values, hf⟩ := hp
  have hmem : a.request.method ∈ Site.collection.methods := by simp [hm, Site.methods]
  have hsent : a.sent (Reply.error e) = Reply.error e := if_neg (by simp [hm])
  have hh : (standard settings).handleAt .collection values a s = refuse e s := by
    rcases he with hw | ⟨⟨w, hw⟩, hc⟩
    · simp only [handleAt, collection, Extract.context, hw, Except.map]
    · simp only [handleAt, collection, hw.context, collectionOperation, if_pos hm, standard, hc]
      rfl
  rw [← hsent]
  exact serve_sends settings ht hf hmem hh

theorem serve_create (ht : settings.timeoutSeconds ≠ 0) (hp : a.Finds sites)
    (hm : a.request.method = "POST") (hw : a.IsFor w)
    (hc : Extract.createRequest a.lengthOrder settings.maxBodySize a.request = .ok c) :
    ((standard settings).serve sites a s).Sends
      (answerReply (.create c.toDraft)
        (Service.outcome ⟨w, a.requestId⟩ a.stamp (.create c.toDraft) s).1)
      (Service.outcome ⟨w, a.requestId⟩ a.stamp (.create c.toDraft) s).2 := by
  have h := serve_of_calls settings ht hw (.create hp hm hc) s
  rwa [Arrival.sent, if_neg (by simp [hm])] at h

/-- What the use case answers to a request whose lengths are right. -/
theorem outcome_of_badLengths (ctx : Context) (stamp : Stamp) (hb : c.badLengths = [])
    (hnew : stamp.id ∉ s.map (·.id)) :
    (Service.outcome ctx stamp (.create c.toDraft) s).1 =
      if c.badFields ≠ [] then .error ⟨.validationFailed,
        "; ".intercalate (c.badFields.map fun (field, fault) => field ++ ": " ++ fault)⟩
      else if ∃ d ∈ s, d.workspace = ctx.workspace ∧
        Text.lower d.name = Text.lower (Text.trim c.name) then
        .error (Service.taken (Text.trim c.name))
      else .ok (c.toDraft.source ctx.workspace stamp).summary := by
  have hfaults := CreateRequest.faults_toDraft hb
  have hacc : ¬ c.toDraft.Acceptable ↔ c.badFields ≠ [] := by
    rw [← Draft.faults_eq_nil_iff, hfaults, List.map_eq_nil_iff]
  have hid : ¬ Store.hasId s (c.toDraft.source ctx.workspace stamp).id := by
    rw [Store.hasId_iff]
    rintro ⟨d, hd, hde⟩
    exact hnew (List.mem_map.2 ⟨d, hd, hde⟩)
  have hsame : (∃ d ∈ s, d.Namesakes (c.toDraft.source ctx.workspace stamp)) ↔
      ∃ d ∈ s, d.workspace = ctx.workspace ∧
        Text.lower d.name = Text.lower (Text.trim c.name) := Iff.rfl
  rw [Service.outcome_create]
  simp only [hacc, hsame, if_neg hid]
  split
  · rw [Draft.rejection, hfaults]
  · split <;> rfl

/-- Requests to create a data source are decided so at every store. -/
theorem decision_serve (ht : settings.timeoutSeconds ≠ 0) (hp : a.Finds sites)
    (hm : a.request.method = "POST") (hnew : a.stamp.id ∉ s.map (·.id)) :
    Decision settings.maxBodySize s a ((standard settings).serve sites a s).response where
  noWorkspace h := by
    have hw : ∀ w, ¬ a.IsFor w := fun w hw => by
      obtain ⟨raw, hr, hplain, hid⟩ := Arrival.isFor_iff.1 hw
      exact h raw w hr hplain hid
    obtain ⟨detail, he⟩ := Extract.workspace_eq_of_not_isFor hw
    exact (serve_refused settings ht hp hm (.inl he)).status
  noRequest w hw h := by
    obtain ⟨detail, he⟩ := Extract.createRequest_eq_of_not_holds h a.lengthOrder
    exact (serve_refused settings ht hp hm (.inr ⟨⟨w, hw⟩, he⟩)).status
  badLengths w c hw hc hb := by
    have he := Extract.createRequest_eq hc a.lengthOrder
    rw [if_neg hb] at he
    have h := serve_refused (s := s) settings ht hp hm (.inr ⟨⟨w, hw⟩, he⟩)
    exact ⟨h.status, _, Extract.tellsLengths _ c, h.body⟩
  badFields w c hw hc hb hf := by
    have he := (Extract.createRequest_eq hc a.lengthOrder).trans (if_pos hb)
    have h := serve_create (s := s) settings ht hp hm hw he
    rw [outcome_of_badLengths _ _ hb hnew, if_pos hf] at h
    exact ⟨h.status, h.body⟩
  nameTaken w c hw hc hb hf hn := by
    have he := (Extract.createRequest_eq hc a.lengthOrder).trans (if_pos hb)
    have h := serve_create (s := s) settings ht hp hm hw he
    rw [outcome_of_badLengths _ _ hb hnew, if_neg (not_not_intro hf), if_pos hn] at h
    exact h.status
  created w c hw hc hb hf hn := by
    have he := (Extract.createRequest_eq hc a.lengthOrder).trans (if_pos hb)
    have h := serve_create (s := s) settings ht hp hm hw he
    rw [outcome_of_badLengths _ _ hb hnew, if_neg (not_not_intro hf), if_neg hn] at h
    exact h.status

/-- A body that is not longer than the limit is served as under any higher limit. -/
theorem serve_of_length_le (hp : a.Finds sites)
    (hl : a.request.body.length ≤ settings.maxBodySize) {limit : Nat}
    (hlimit : settings.maxBodySize ≤ limit) (s : Store) :
    (standard { settings with maxBodySize := limit }).serve sites a s =
      (standard settings).serve sites a s := by
  have hc : Extract.createRequest a.lengthOrder limit a.request =
      Extract.createRequest a.lengthOrder settings.maxBodySize a.request := by
    have h₁ : ¬ settings.maxBodySize < a.request.body.length := Nat.not_lt.2 hl
    have h₂ : ¬ limit < a.request.body.length := Nat.not_lt.2 (hl.trans hlimit)
    simp only [Extract.createRequest, Extract.json, if_neg h₁, if_neg h₂]
  obtain ⟨values, hf⟩ := hp
  have hh : (standard { settings with maxBodySize := limit }).handleAt .collection values a =
      (standard settings).handleAt .collection values a := by
    funext s
    simp only [handleAt, collection, collectionOperation, standard, hc]
    rfl
  simp only [serve, hf, serveAt, hh]
  rfl

/-- Whatever the settings are besides the path, and whatever is stored, requests to create a data
source are decided check by check, and a body as long as the limit is not too long. -/
theorem decision_post (h : settings.apiPath = "/api/v1") (ht : settings.timeoutSeconds ≠ 0) :
    ∃ sites, SiteMap.ofSettings? settings = some sites ∧ ∀ a (s : Store),
      a.request.method = "POST" → a.request.target.path = sourcesPath →
      a.stamp.id ∉ s.map (·.id) →
      Decision settings.maxBodySize s a ((standard settings).serve sites a s).response ∧
      (a.request.body.length ≤ settings.maxBodySize → ∀ limit, settings.maxBodySize ≤ limit →
        (standard { settings with maxBodySize := limit }).serve sites a s =
          (standard settings).serve sites a s) :=
  ⟨_, SiteMap.ofSettings?_eq_standard h, fun _ s hm hp hnew =>
    have hfinds := Arrival.finds_standard_iff.2 hp
    ⟨decision_serve settings ht hfinds hm hnew, fun hl _ hlimit =>
      serve_of_length_le settings hfinds hl hlimit s⟩⟩

theorem decision_rivalPosting :
    ({} : Settings).apiPath = "/api/v1" ∧ ({} : Settings).timeoutSeconds ≠ 0 ∧
      ∃ sites, SiteMap.ofSettings? {} = some sites ∧
      let s := ((standard {}).serveAll sites rivalPostings []).2
      let a := posting .nil 4
      a.request.method = "POST" ∧ a.request.target.path = sourcesPath ∧
      a.stamp.id ∉ s.map (·.id) ∧
      Decision 2097152 s a ((standard {}).serve sites a s).response ∧
      ((standard {}).serve sites a s).response.status = 409 := by
  obtain ⟨sites, hs, hd⟩ := decision_post {} rfl (by decide)
  obtain rfl : SiteMap.standard true = sites :=
    Option.some.inj ((SiteMap.ofSettings?_eq_standard rfl).symm.trans hs)
  have hnew : (posting .nil 4).stamp.id ∉
      (((standard {}).serveAll (.standard true) rivalPostings []).2.map (·.id)) := by
    decide +kernel
  exact ⟨rfl, by decide, _, hs, rfl, rfl, hnew, (hd _ _ rfl rfl hnew).1, by decide +kernel⟩

end App

end SourceRegistry
