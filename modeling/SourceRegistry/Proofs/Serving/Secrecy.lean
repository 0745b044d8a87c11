import Mathlib.Data.List.Forall2
import SourceRegistry.Proofs.Json.Printer
import SourceRegistry.Proofs.Serving.Bodies
import SourceRegistry.Proofs.Serving.Layers
import SourceRegistry.Proofs.Serving.Sites

/-!
# Connection settings are kept secret

Two stores that differ in the settings of connections only, and two sequences of requests that
differ in the settings they hold only: the service answers and reports the same, and leaves two
stores that differ in settings only. What it may tell of settings is how long they are: the
refusal of a body that cannot be read names the place where that showed.
`servings_sameButData` is the result.
-/

namespace SourceRegistry

open Http (Request Response)

/-- Two texts that are the same but for the place that a refusal names. -/
inductive SameTexts : String → String → Prop
  | same (text : String) : SameTexts text text
  | refusals {e e' : ApiError} (h : e.SameButPlace e') :
    SameTexts (Reply.error e).body (Reply.error e').body

structure Http.Response.SameButPlace (r r' : Response) : Prop where
  status : r.status = r'.status
  headers : r.headers = r'.headers
  body : SameTexts r.body r'.body

inductive Trace.Entry.SameButPlace : Trace.Entry → Trace.Entry → Prop
  | same (t : Trace.Entry) : SameButPlace t t
  | refused {e e' : ApiError} (h : e.SameButPlace e') :
    SameButPlace (.event (.refused e) none) (.event (.refused e') none)

/-- Two reports that are the same but for the places that refusals name. -/
abbrev Trace.SameButPlace : List Trace.Entry → List Trace.Entry → Prop :=
  List.Forall₂ Trace.Entry.SameButPlace

instance : Std.Refl Trace.Entry.SameButPlace := ⟨.same⟩

namespace Reply

theorem error_sameButPlace {e e' : ApiError} (h : e.SameButPlace e') :
    (error e).SameButPlace (error e') := by
  refine ⟨?_, rfl, .refusals h⟩
  cases h <;> rfl

/-- What stands in front of the message when a bad request is refused. -/
def badRequestHead : List Char :=
  '{' :: (Json.memberChars "error" (Json.stringChars "BAD_REQUEST") ++
    ',' :: Json.memberChars "message" [])

theorem body_badRequest (detail : String) :
    (error (.badRequest detail)).body = String.ofList badRequestHead ++
      String.ofList (Json.stringChars ("Bad request: " ++ detail) ++ ['}']) := by
  have hbody : (error (.badRequest detail)).body =
      (ErrorBody.toJson ⟨"BAD_REQUEST", "Bad request: " ++ detail, none⟩).text := rfl
  rw [hbody, Json.text, ← String.ofList_append]
  refine congrArg String.ofList ((Json.chars_object _ _ _ _).trans ?_)
  simp [badRequestHead, Json.separated, Json.membersChars, Json.memberChars, Json.chars]

/-- The refusal of a bad request is always worth compressing. -/
theorem isCompressible_badRequest (detail : String) :
    Layer.isCompressible (error (.badRequest detail)) := by
  have hhead : 32 ≤ (String.ofList badRequestHead).utf8ByteSize := by decide +kernel
  refine decide_eq_true ?_
  rw [body_badRequest, String.utf8ByteSize_append]
  exact hhead.trans (Nat.le_add_right _ _)

end Reply

namespace Http.Response.SameButPlace

variable {r r' : Response}

theorem refl (r : Response) : r.SameButPlace r := ⟨rfl, rfl, .same _⟩

theorem isCompressible_eq (h : r.SameButPlace r') :
    Layer.isCompressible r = Layer.isCompressible r' := by
  obtain ⟨status, headers, body⟩ := r
  obtain ⟨status', headers', body'⟩ := r'
  cases h.body with
  | same => rfl
  | refusals he =>
    cases he with
    | same e => rfl
    | place =>
      exact (Reply.isCompressible_badRequest _).trans (Reply.isCompressible_badRequest _).symm

theorem append (h : r.SameButPlace r') (name value : String) :
    (r.append name value).SameButPlace (r'.append name value) :=
  ⟨h.status, congrArg (· ++ _) h.headers, h.body⟩

theorem replace (h : r.SameButPlace r') (name value : String) :
    (r.replace name value).SameButPlace (r'.replace name value) :=
  ⟨h.status, congrArg (fun l => List.filter _ l ++ _) h.headers, h.body⟩

theorem addHeaders (h : r.SameButPlace r') (headers : List Http.Header) :
    (Layer.addHeaders headers r).SameButPlace (Layer.addHeaders headers r') :=
  ⟨h.status, congrArg (· ++ _) h.headers, h.body⟩

theorem withoutBody (h : r.SameButPlace r') : r.withoutBody.SameButPlace r'.withoutBody :=
  ⟨h.status, h.headers, .same _⟩

theorem compress (h : r.SameButPlace r') {q q' : Request}
    (hq : Http.Coding.preferred q = Http.Coding.preferred q') :
    (Layer.compress q r).SameButPlace (Layer.compress q' r') := by
  unfold Layer.compress
  rw [h.isCompressible_eq, hq]
  split
  · cases Http.Coding.preferred q' with
    | identity => exact h.append _ _
    | gzip => exact (h.append _ _).append _ _
  · exact h

end Http.Response.SameButPlace

/-- Two endings of a handler that are the same but for the place that a refusal names. -/
inductive SameEndings : Except Panic Response → Except Panic Response → Prop
  | reply {r r' : Response} (h : r.SameButPlace r') : SameEndings (.ok r) (.ok r')
  | panic (p : Panic) : SameEndings (.error p) (.error p)

structure Handled.SameButData (h h' : Handled Store) : Prop where
  delay : h.delay = h'.delay
  ending : SameEndings h.ending h'.ending
  state : h.state.blind = h'.state.blind
  trace : Trace.SameButPlace h.trace h'.trace

structure Served.SameButData (v v' : Served Store) : Prop where
  response : v.response.SameButPlace v'.response
  state : v.state.blind = v'.state.blind
  trace : Trace.SameButPlace v.trace v'.trace

/-- Two requests that are the same but for the data in their bodies, and so for the lengths of
these. -/
structure Arrival.SameButData (limit : Nat) (a a' : Arrival) : Prop where
  method : a.request.method = a'.request.method
  target : a.request.target = a'.request.target
  headers : ∀ name, name ≠ "content-length" →
    a.request.headerValues name = a'.request.headerValues name
  body : SameBodies limit a.request.body a'.request.body
  freshId : a.freshId = a'.freshId
  stamp : a.stamp = a'.stamp
  lengthOrder : a.lengthOrder = a'.lengthOrder

section
variable {limit : Nat} {a a' : Arrival} {s s' : Store}

theorem Arrival.SameButData.sameButBody (h : a.SameButData limit a') : a.SameButBody a' :=
  ⟨h.method, h.target, h.headers, h.freshId, h.stamp, h.lengthOrder⟩

/-! ## Through the layers -/

namespace Layer

variable (app : App Store) {handle handle' : Store → Handled Store}

theorem deadline_sameButData {h h' : Handled Store} (hs : s.blind = s'.blind)
    (hh : h.SameButData h') (seconds : Nat) :
    (deadline seconds s h).SameButData (deadline seconds s' h') := by
  unfold deadline
  rw [hh.delay]
  dsimp only
  split
  · exact ⟨rfl, .reply (.refl _), hs, .nil⟩
  · exact hh

theorem inner_sameButData (ha : a.SameEnvelope a') (hs : s.blind = s'.blind)
    (hh : (handle s).SameButData (handle' s')) :
    (inner app a handle s).SameButData (inner app a' handle' s') := by
  have hd := deadline_sameButData hs hh app.settings.timeoutSeconds
  unfold inner
  rw [ha.isPreflight_eq, ha.grantHeaders_eq]
  split
  · exact ⟨rfl, .reply (.refl _), hs, .nil⟩
  · refine ⟨hd.delay, ?_, hd.state, hd.trace⟩
    have hending := hd.ending
    dsimp only
    generalize (deadline _ s (handle s)).ending = x at hending ⊢
    generalize (deadline _ s' (handle' s')).ending = x' at hending ⊢
    cases hending with
    | reply hr => exact .reply ((hr.compress ha.preferred_eq).addHeaders _)
    | panic p => exact .panic p

theorem catchPanic_sameButData {h h' : Handled Store} (hh : h.SameButData h') :
    (catchPanic h).SameButData (catchPanic h') := by
  obtain ⟨delay, ending, state, trace⟩ := h
  obtain ⟨delay', ending', state', trace'⟩ := h'
  cases hh.ending with
  | reply hr => exact ⟨hr, hh.state, hh.trace⟩
  | panic p => exact ⟨.refl _, hh.state, List.rel_append hh.trace (List.forall₂_refl _)⟩

theorem report_sameButData {v v' : Served Store} (hv : v.SameButData v') (l : Trace.RequestLabel) :
    (report l v).SameButData (report l v') := by
  refine ⟨hv.response, hv.state, .cons (.same _) ?_⟩
  rw [hv.response.status]
  exact List.rel_append hv.trace (List.forall₂_refl _)

theorem all_sameButData (ha : a.SameEnvelope a')
    (ht : a.request.target = a'.request.target) (hs : s.blind = s'.blind)
    (hh : (handle s).SameButData (handle' s')) :
    (all app a handle s).SameButData (all app a' handle' s') := by
  have hv := report_sameButData (catchPanic_sameButData
    (inner_sameButData app ha hs hh)) (label a')
  have hlabel : label a = label a' := by rw [label, label, ha.requestId_eq, ha.method, ht]
  unfold all identify
  rw [hlabel, ha.requestId_eq]
  exact ⟨hv.response.replace _ _, hv.state, hv.trace⟩

end Layer

/-! ## Use cases and sites -/

def Handled.blind (h : Handled Store) : Handled Store := { h with state := h.state.blind }

theorem Handled.SameButData.of_blind {h h' : Handled Store} (hh : h.blind = h'.blind) :
    h.SameButData h' := by
  obtain ⟨delay, ending, state, trace⟩ := h
  obtain ⟨delay', ending', state', trace'⟩ := h'
  obtain ⟨rfl, rfl, hstate, rfl⟩ := Handled.mk.inj hh
  refine ⟨rfl, ?_, hstate, List.forall₂_refl trace⟩
  cases ending with
  | ok r => exact .reply (.refl r)
  | error p => exact .panic p

namespace App

variable (settings : Settings)

/-- What is reported of an answer outside of the use case. -/
def refusals {α : Type} : Except ServiceError α → List Trace.Entry
  | .ok _ => []
  | .error e => [.event (.refused (.service e)) none]

def ran {α : Type} (answer : Except ServiceError α → Response) (span : Trace.Span)
    (r : Except ServiceError α × Store × List Trace.Event) : Handled Store :=
  ⟨0, .ok (answer r.1), r.2.1,
    r.2.2.map (.event · (some span)) ++ [.closed span] ++ refusals r.1⟩

theorem perform_eq_ran (ctx : Context) (stamp : Stamp) (op : Operation) (s : Store) :
    (standard settings).perform ctx stamp op s =
      ran (answerReply op) (op.span ctx) ((Service.program ctx stamp op).run.run .memory s) := by
  unfold perform ran
  simp only [standard, UseCases.service]
  cases ((Service.program ctx stamp op).run.run .memory s).1 with
  | ok answer => rfl
  | error e => rfl

/-- An operation is handled without settings as it is handled with them. -/
theorem perform_blind (ctx : Context) (stamp : Stamp) (op : Operation) (s : Store) :
    ((standard settings).perform ctx stamp op.hide s.blind).blind =
      ((standard settings).perform ctx stamp op s).blind := by
  have hblind : ∀ {α : Type} (answer : Except ServiceError α → Response) (span r),
      (ran answer span r).blind = ran answer span (Service.blindResult r) := fun _ _ _ => rfl
  rw [perform_eq_ran, perform_eq_ran, hblind, hblind]
  cases op with
  | list => exact congrArg (ran _ _) (Service.run_list_blind ctx stamp s)
  | find id => exact congrArg (ran _ _) (Service.run_find_blind ctx stamp s id)
  | delete id => exact congrArg (ran _ _) (Service.run_delete_blind ctx stamp s id)
  | create draft =>
    have hanswer : (answerReply (.create draft.hide) : Except ServiceError Summary → Response) =
        answerReply (.create draft) := by
      funext x
      cases x <;> rfl
    exact (congrArg (ran _ _) (Service.run_create_blind ctx stamp s draft)).trans
      (congrArg (ran · _ _) hanswer)

theorem perform_sameButData (ctx : Context) (stamp : Stamp) {op op' : Operation} {s s' : Store}
    (hop : op.hide = op'.hide) (hs : s.blind = s'.blind) :
    ((standard settings).perform ctx stamp op s).SameButData
      ((standard settings).perform ctx stamp op' s') := by
  refine .of_blind ?_
  rw [← perform_blind, ← perform_blind settings ctx stamp op', hop, hs]

/-- Readiness is told by a list of data sources, of which only the number is reported. -/
theorem ready_sameButData {a a' : Arrival} {s s' : Store} (hs : s.blind = s'.blind) :
    ((standard settings).ready a s).SameButData ((standard settings).ready a' s') := by
  have hlength : (s.ofWorkspace .nil).length = (s'.ofWorkspace .nil).length := by
    rw [← Store.length_blind, ← s.ofWorkspace_blind, hs, s'.ofWorkspace_blind, Store.length_blind]
  have hready : ∀ (a : Arrival) (s : Store), (standard settings).ready a s =
      ⟨0, .ok (Reply.json 200 (Readiness.toJson ⟨true, true⟩)), s,
        [.event (.listed (s.ofWorkspace .nil).length) (some (Operation.list.span probe)),
          .closed (Operation.list.span probe)]⟩ := fun _ _ => rfl
  rw [hready, hready, hlength]
  exact .of_blind (congrArg (Handled.mk _ _ · _) hs)

section
variable {a a' : Arrival} {s s' : Store}

theorem refuse_sameButData {e e' : ApiError} (he : e.SameButPlace e') (hs : s.blind = s'.blind) :
    (refuse e s).SameButData (refuse e' s') :=
  ⟨rfl, .reply (Reply.error_sameButPlace he), hs, .cons (.refused he) .nil⟩

theorem reply_sameButData (r : Response) (hs : s.blind = s'.blind) :
    (reply s r).SameButData (reply s' r) := ⟨rfl, .reply (.refl r), hs, .nil⟩

theorem collection_sameButData (ha : a.SameButData settings.maxBodySize a')
    (hs : s.blind = s'.blind) :
    ((standard settings).collection a s).SameButData
      ((standard settings).collection a' s') := by
  have hread := Extract.createRequest_alike ha.sameButBody.announcesJson_eq ha.body
    a'.lengthOrder
  unfold collection collectionOperation
  rw [ha.sameButBody.context_eq, ha.method, ha.stamp, ha.lengthOrder]
  cases Extract.context a'.request a'.requestId with
  | error e => exact refuse_sameButData (.same e) hs
  | ok ctx =>
    dsimp only
    by_cases hm : a'.request.method = "POST"
    · rw [if_pos hm, if_pos hm]
      have hlimit : (standard settings).settings.maxBodySize = settings.maxBodySize := rfl
      rw [hlimit]
      generalize Extract.createRequest _ settings.maxBodySize a.request = x at hread
      generalize Extract.createRequest _ settings.maxBodySize a'.request = x' at hread
      cases hread with
      | @ok c c' h =>
        have hhide : ∀ c : CreateRequest,
            (Operation.create c.toDraft).hide = .create c.hide.toDraft := by
          rintro ⟨name, pluginSrc, health, data⟩
          cases data <;> rfl
        exact perform_sameButData settings ctx _ ((hhide c).trans (h ▸ (hhide c').symm)) hs
      | error he => exact refuse_sameButData he hs
    · rw [if_neg hm, if_neg hm]
      exact perform_sameButData settings ctx _ rfl hs

theorem item_sameButData {limit : Nat} (ha : a.SameButData limit a') (hs : s.blind = s'.blind)
    (parameters : List (String × String)) :
    ((standard settings).item a parameters s).SameButData
      ((standard settings).item a' parameters s') := by
  have hop : ∀ raw, itemOperation a raw = itemOperation a' raw := by
    intro raw
    rw [itemOperation, itemOperation, ha.method]
  unfold item
  rw [ha.sameButBody.context_eq, ha.stamp]
  cases Extract.context a'.request a'.requestId with
  | error e => exact refuse_sameButData (.same e) hs
  | ok ctx =>
    cases Extract.pathText parameters with
    | error f => exact reply_sameButData _ hs
    | ok raw =>
      dsimp only
      rw [hop]
      cases itemOperation a' raw with
      | error e => exact refuse_sameButData (.same e) hs
      | ok op => exact perform_sameButData settings ctx _ rfl hs

theorem handleAt_sameButData (site : Site) (ha : a.SameButData settings.maxBodySize a')
    (hs : s.blind = s'.blind) (parameters : List (String × String)) :
    ((standard settings).handleAt site parameters a s).SameButData
      ((standard settings).handleAt site parameters a' s') := by
  cases site with
  | ready => exact ready_sameButData settings hs
  | collection => exact collection_sameButData settings ha hs
  | item => exact item_sameButData settings ha hs parameters
  | _ => exact reply_sameButData _ hs

/-! ## Serving -/

/-- One request tells nothing about the settings of connections. -/
theorem serve_sameButData (sites : SiteMap) (ha : a.SameButData settings.maxBodySize a')
    (hs : s.blind = s'.blind) :
    ((standard settings).serve sites a s).SameButData
      ((standard settings).serve sites a' s') := by
  unfold serve serveAt
  rw [ha.target, ha.method]
  cases sites.find? a'.request.target.path with
  | none =>
    refine Layer.all_sameButData _ ha.sameButBody.envelope ha.target hs ?_
    rw [handleNowhere, handleNowhere, ha.target, ha.sameButBody.envelope.requestId_eq]
    exact ⟨rfl, .reply (.refl _), hs, List.forall₂_refl _⟩
  | some found =>
    obtain ⟨site, parameters⟩ := found
    dsimp only
    by_cases hm : a'.request.method ∈ site.methods
    · rw [if_pos hm, if_pos hm]
      have hv := Layer.all_sameButData (standard settings) ha.sameButBody.envelope ha.target hs
        (handleAt_sameButData settings site ha hs parameters)
      split
      · exact ⟨hv.response.withoutBody, hv.state, hv.trace⟩
      · exact hv
    · rw [if_neg hm, if_neg hm]
      have hv : (Layer.all (standard settings) a (reply · { status := 405 }) s).SameButData
          (Layer.all (standard settings) a' (reply · { status := 405 }) s') :=
        Layer.all_sameButData _ ha.sameButBody.envelope ha.target hs
          (reply_sameButData { status := 405 } hs)
      exact ⟨hv.response.append _ _, hv.state, hv.trace⟩

end

def servings {σ : Type} (app : App σ) (sites : SiteMap) : List Arrival → σ → List (Served σ)
  | [], _ => []
  | a :: rest, s =>
    let v := app.serve sites a s
    v :: servings app sites rest v.state

/-- Whatever the settings of the service are and wherever its sites lie: over two stores that
differ in the settings of connections only, two sequences of requests that differ in these only
are answered and reported alike, and after each request the stores still differ in these only. -/
theorem servings_sameButData (sites : SiteMap) {arrivals arrivals' : List Arrival} {s s' : Store}
    (hs : s.blind = s'.blind)
    (h : List.Forall₂ (Arrival.SameButData settings.maxBodySize) arrivals arrivals') :
    List.Forall₂ Served.SameButData ((standard settings).servings sites arrivals s)
      ((standard settings).servings sites arrivals' s') := by
  induction h generalizing s s' with
  | nil => exact .nil
  | cons ha _ ih =>
    have hv := serve_sameButData settings sites ha hs
    exact .cons hv (ih hv.state)

end App

end

open Text (Symbol)

namespace Json

/-- Whether a text is that of an object with `rest` behind it. -/
def opensObject (x rest : List Symbol) : Bool :=
  match value (depthLimit - 1) x with
  | .ok (.object _, t) => t == rest
  | _ => false

theorem value_of_opensObject {x rest : List Symbol} (h : opensObject x rest) :
    ∃ ms, value (depthLimit - 1) x = .ok (.object ms, rest) := by
  unfold opensObject at h
  split at h
  · next ms t hv =>
    rw [eq_of_beq h] at hv
    exact ⟨ms, hv⟩
  · cases h

end Json

namespace App

def postingOf (data rest : String) : Arrival :=
  { posting .nil 1 with
    request := { (posting .nil 1).request with
      body := ("\x7b\x22data\x22:" ++ data ++ rest).toUTF8.toList } }

/-- The posting has a member `data` that is an object, and is no longer than allowed. -/
def HoldsData (limit : Nat) (data rest : String) : Prop :=
  let body := (postingOf data rest).request.body
  Symbol.ofBytes body = Text.symbols "\x7b\x22data\x22:" ++ Text.symbols (data ++ rest) ∧
    Json.opensObject (Text.symbols (data ++ rest)) (Text.symbols rest) ∧ body.length ≤ limit

instance (limit : Nat) (data rest : String) : Decidable (HoldsData limit data rest) :=
  inferInstanceAs (Decidable (_ ∧ _ ∧ _))

theorem postingOf_sameButData {limit : Nat} {data data' rest : String}
    (h : HoldsData limit data rest) (h' : HoldsData limit data' rest) :
    (postingOf data rest).SameButData limit (postingOf data' rest) := by
  obtain ⟨hb, hx, hl⟩ := h
  obtain ⟨hb', hx', hl'⟩ := h'
  obtain ⟨ms, hms⟩ := Json.value_of_opensObject hx
  obtain ⟨ms', hms'⟩ := Json.value_of_opensObject hx'
  have hsplit : ∀ x, Text.symbols "\x7b\x22data\x22:" ++ x = [] ++ .char '\x7b' ::
      ([] ++ .char '\x22' :: (Text.symbols "data\x22" ++ ([] ++ .char ':' :: x))) := fun _ => rfl
  refine ⟨rfl, rfl, fun _ _ => rfl, ?_, rfl, rfl, rfl⟩
  refine .objects (hb.trans (hsplit _)) (hb'.trans (hsplit _)) (List.forall_mem_nil _) ?_ hl hl'
  exact .data (List.forall_mem_nil _) (fun _ => rfl) (List.forall_mem_nil _) hms hms' (.same _)

def kept (data : Json) : DataSource :=
  ⟨(Fixture.stamp 9).id, .nil, "old", "p", true, data, (Fixture.stamp 9).time⟩

theorem servings_postings :
    let data := "\x7b\x22url\x22:\x22u\x22\x7d"
    let data' := "\x7b\x22password\x22:\x22abc\x22\x7d"
    let rest := ",\x22name\x22:\x22n\x22,\x22pluginSrc\x22:\x22p\x22\x7d"
    let arrivals := [postingOf data rest, postingOf data rest]
    let arrivals' := [postingOf data' rest, postingOf data' rest]
    let s : Store := [kept (.object [("url", .string "u")])]
    let s' : Store := [kept .null]
    s.blind = s'.blind ∧
      List.Forall₂ (Arrival.SameButData ({} : Settings).maxBodySize) arrivals arrivals' ∧
      List.Forall₂ Served.SameButData ((standard {}).servings (.standard true) arrivals s)
        ((standard {}).servings (.standard true) arrivals' s') ∧
      ((standard {}).servings (.standard true) arrivals s).map (·.response.status) =
        [201, 409] := by
  intro data data' rest arrivals arrivals' s s'
  have ha : (postingOf data rest).SameButData ({} : Settings).maxBodySize (postingOf data' rest) :=
    postingOf_sameButData (by decide +kernel) (by decide +kernel)
  have has : List.Forall₂ (Arrival.SameButData ({} : Settings).maxBodySize) arrivals arrivals' :=
    .cons ha (.cons ha .nil)
  exact ⟨rfl, has, servings_sameButData {} _ rfl has, by decide +kernel⟩

theorem place_told :
    let arrival := postingOf "\x7b\x7d" ",\x22name\x22:5\x7d"
    let arrival' := postingOf "\x7b\x22password\x22:\x22abc\x22\x7d" ",\x22name\x22:5\x7d"
    SiteMap.ofSettings? {} = some (.standard true) ∧
      arrival.SameButData ({} : Settings).maxBodySize arrival' ∧
      ((standard {}).serveAll (.standard true) [arrival] []).1 ≠
        ((standard {}).serveAll (.standard true) [arrival'] []).1 := by
  intro arrival arrival'
  exact ⟨SiteMap.ofSettings?_eq_standard rfl,
    postingOf_sameButData (by decide +kernel) (by decide +kernel), by decide +kernel⟩

end App

end SourceRegistry
