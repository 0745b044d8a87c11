import SourceRegistry.Proofs.Json.Insertion
import SourceRegistry.Proofs.Serving.Errands
import SourceRegistry.Proofs.Serving.Secrecy

/-!
# Members that are nobody's

The body of a request to create a data source may hold members beside those that make up such a
request. They are passed over, whatever they are called and whatever their values are: requests
that differ only in such members are answered alike and leave the same store. So a client has no
hand in the identifier, the workspace and the time of what it creates; `padded_standard` says both.
A name has to be a text, though: where half of a character is escaped in it, the body is refused.
-/

namespace SourceRegistry

open Http (Request Response)
open Json (Part IsBlanks Inserted partsText)
open Text (Symbol)

namespace CreateRequest

def fieldNames : List String := ["name", "pluginSrc", "health", "data"]

open Json in
theorem read_local {depth : Nat} : ∀ m ∈ form.members, ∀ {gap x}, IsBlanks gap → IsValue x →
    Local (m.read depth) (gap ++ x) := by
  intro m hm gap x hgap hx
  simp only [form, List.mem_cons, List.not_mem_nil, or_false] at hm
  rcases hm with rfl | rfl | rfl | rfl <;> dsimp only
  · exact Decoder.setting_local _ (Decoder.string_local depth hgap hx)
  · exact Decoder.setting_local _ (Decoder.string_local depth hgap hx)
  · exact Decoder.setting_local _ (Decoder.bool_local depth hgap hx)
  · exact Decoder.setting_local _ (Decoder.nullable_any_local depth hgap hx)

end CreateRequest

/-- Two bodies that are the same, or two objects no longer than the limit, the second of which has
all members of the first and others among them that are none of a request. -/
inductive PaddedBodies (limit : Nat) : List UInt8 → List UInt8 → Prop
  | same (b : List UInt8) : PaddedBodies limit b b
  | objects {b b' : List UInt8} {blanks close rest : List Symbol} {parts parts' : List Part}
    (hb : Symbol.ofBytes b =
      blanks ++ .char '\x7b' :: partsText true parts (close ++ .char '}' :: rest))
    (hb' : Symbol.ofBytes b' =
      blanks ++ .char '\x7b' :: partsText true parts' (close ++ .char '}' :: rest))
    (hblanks : IsBlanks blanks) (hclose : IsBlanks close) (hparts : ∀ p ∈ parts, p.IsPart .object)
    (h : Inserted (Part.IsOther CreateRequest.fieldNames) parts parts')
    (hl : b.length ≤ limit) (hl' : b'.length ≤ limit) : PaddedBodies limit b b'

structure Arrival.Padded (limit : Nat) (a a' : Arrival) : Prop where
  request : a.SameButBody a'
  body : PaddedBodies limit a.request.body a'.request.body

namespace Extract

/-- Two readings that came to the same, or to refusals that are the same but for the place. -/
inductive ReadSame {α : Type} : Except ApiError α → Except ApiError α → Prop
  | same (x : Except ApiError α) : ReadSame x x
  | refused {e e' : ApiError} (h : e.SameButPlace e') : ReadSame (.error e) (.error e')

variable {limit : Nat} {r r' : Request}

theorem json_padded (hj : announcesJson r = announcesJson r')
    (h : PaddedBodies limit r.body r'.body) :
    ReadSame (json CreateRequest.form.decoder limit r)
      (json CreateRequest.form.decoder limit r') := by
  unfold json
  rw [hj]
  generalize r.body = b at h
  generalize r'.body = b' at h
  cases h with
  | same => exact .same _
  | @objects _ blanks close rest parts parts' hb hb' hblanks hclose hparts h hl hl' =>
    split
    · exact .same _
    · rw [if_neg (Nat.not_lt.2 hl), if_neg (Nat.not_lt.2 hl')]
      have hd : Json.Lockstep (Json.StopsAt rest rest)
          (CreateRequest.form.decoder Json.depthLimit (Symbol.ofBytes b))
          (CreateRequest.form.decoder Json.depthLimit (Symbol.ofBytes b')) := by
        rw [hb, hb']
        exact CreateRequest.form.decoder_inserted CreateRequest.read_local h hparts hblanks hclose
          rest rest
      dsimp only
      generalize CreateRequest.form.decoder _ (Symbol.ofBytes b) = x at hd
      generalize CreateRequest.form.decoder _ (Symbol.ofBytes b') = x' at hd
      cases hd with
      | @ok c c' h =>
        obtain ⟨c, t⟩ := c
        obtain ⟨c', t'⟩ := c'
        obtain ⟨rfl, -, -⟩ := h
        exact .same _
      | error cause left left' path => exact .refused (bodyFault_sameButPlace _ _ _ _ _ _)

theorem createRequest_padded (hj : announcesJson r = announcesJson r')
    (h : PaddedBodies limit r.body r'.body) (order : LengthOrder) :
    ReadSame (createRequest order limit r) (createRequest order limit r') := by
  have hx := json_padded hj h
  unfold createRequest
  generalize json CreateRequest.form.decoder limit r = x at hx
  generalize json CreateRequest.form.decoder limit r' = x' at hx
  cases hx with
  | same => exact .same _
  | refused h => exact .refused h

end Extract

namespace Arrival.Padded

variable {a a' : Arrival}

/-- The same use case is called, or none for reasons that are the same but for the place. -/
theorem errand_cases {app : App σ} (h : a.Padded app.settings.maxBodySize a') (sites : SiteMap) :
    app.errand sites a = app.errand sites a' ∨
      ∃ e e', e.SameButPlace e' ∧ app.errand sites a = .sources (.refuse e) ∧
        app.errand sites a' = .sources (.refuse e') := by
  have hread := Extract.createRequest_padded h.request.announcesJson_eq h.body
    a'.lengthOrder
  unfold App.errand Errand.of
  rw [h.request.target, h.request.method]
  split
  · exact .inl rfl
  · next site values _ =>
    split
    · cases site with
      | collection =>
        simp only [Errand.ofSite, Choice.ofCollection]
        rw [h.request.workspace_eq, h.request.method, h.request.lengthOrder]
        cases Extract.workspace a'.request with
        | error e => exact .inl rfl
        | ok w =>
          dsimp only
          split
          · generalize Extract.createRequest _ _ a.request = x at hread
            generalize Extract.createRequest _ _ a'.request = x' at hread
            cases hread with
            | same => exact .inl rfl
            | refused he => exact .inr ⟨_, _, he, rfl, rfl⟩
          · exact .inl rfl
      | item =>
        simp only [Errand.ofSite, Choice.ofItem]
        rw [h.request.workspace_eq, h.request.method]
        exact .inl rfl
      | _ => exact .inl rfl
    · exact .inl rfl

end Arrival.Padded

/-! ## Serving -/

/-- A data source that takes its identifier, its time and its workspace from what came with a
request besides its body. -/
structure DataSource.StampedBy (a : Arrival) (d : DataSource) : Prop where
  id : d.id = a.stamp.id
  createdAt : d.createdAt = a.stamp.time
  workspace : a.IsFor d.workspace

theorem Service.mem_outcome {ctx : Context} {stamp : Stamp} {op : Operation} {s : Store}
    {d : DataSource} (hd : d ∈ (outcome ctx stamp op s).2) :
    d ∈ s ∨ d.id = stamp.id ∧ d.createdAt = stamp.time ∧ d.workspace = ctx.workspace := by
  cases op with
  | list =>
    rw [outcome_list] at hd
    exact .inl hd
  | find id =>
    rw [outcome_find] at hd
    split at hd
    · exact .inl hd
    · exact .inl hd
  | delete id =>
    rw [outcome_delete] at hd
    split at hd
    · exact .inl (List.mem_of_mem_filter hd)
    · exact .inl hd
  | create draft =>
    rw [outcome_create] at hd
    simp only at hd
    split at hd
    · exact .inl hd
    · split at hd
      · exact .inl hd
      · split at hd
        · exact .inl hd
        · rcases List.mem_append.1 hd with hd | hd
          · exact .inl hd
          · obtain rfl := List.mem_singleton.1 hd
            exact .inr ⟨rfl, rfl, rfl⟩

namespace App

variable {a a' : Arrival}

theorem sameButPlace_sent (a : Arrival) {r r' : Response} (h : r.SameButPlace r') :
    (a.sent r).SameButPlace (a.sent r') := by
  unfold Arrival.sent
  split
  · exact h.withoutBody
  · exact h

/-- A request is answered alike, but for the place that a refusal names, and leaves the same store,
whatever other members its body has. -/
theorem serve_padded (app : App Store) (sites : SiteMap)
    (h : a.Padded app.settings.maxBodySize a') (s : Store) :
    (app.serve sites a s).response.SameButPlace (app.serve sites a' s).response ∧
      (app.serve sites a s).state = (app.serve sites a' s).state := by
  rcases h.errand_cases sites with he | ⟨e, e', hplace, he, he'⟩
  · obtain ⟨hresponse, hstate⟩ := h.request.envelope.serve_eq h.request.stamp he
      (fun _ => congrArg _ h.request.target) s
    rw [hresponse]
    exact ⟨.refl _, hstate⟩
  · have hs : s.blind = s.blind := rfl
    have hv := Layer.all_sameButData app h.request.envelope h.request.target hs
      (refuse_sameButData hplace hs)
    have hstate : ∀ (a : Arrival) e, (Layer.all app a (refuse e) s).state = s := by
      intro a e
      rcases Layer.all_state app a (refuse e) s with hs | hs
      · exact hs
      · exact hs
    rw [serve_eq, serve_eq app sites a', he, he', h.request.envelope.send_eq]
    exact ⟨sameButPlace_sent a' hv.response, (hstate a e).trans (hstate a' e').symm⟩

/-- Sequences of requests that differ in other members only are answered alike and leave the same
store. -/
theorem serveAll_padded (app : App Store) (sites : SiteMap) {arrivals arrivals' : List Arrival}
    (h : List.Forall₂ (Arrival.Padded app.settings.maxBodySize) arrivals arrivals') (s : Store) :
    List.Forall₂ Response.SameButPlace (app.serveAll sites arrivals s).1
        (app.serveAll sites arrivals' s).1 ∧
      (app.serveAll sites arrivals s).2 = (app.serveAll sites arrivals' s).2 := by
  induction h generalizing s with
  | nil => exact ⟨.nil, rfl⟩
  | cons ha _ ih =>
    obtain ⟨hresponse, hstate⟩ := serve_padded app sites ha s
    obtain ⟨hrest, hend⟩ := ih (app.serve sites _ s).state
    simp only [serveAll]
    rw [← hstate]
    exact ⟨.cons hresponse hrest, hend⟩

/-- What a request adds to a store is stamped by it. -/
theorem stamped_serve (settings : Settings) (sites : SiteMap) (a : Arrival) (s : Store) :
    ∀ d ∈ ((standard settings).serve sites a s).state, d ∈ s ∨ d.StampedBy a := by
  intro d hd
  rcases serve_cases settings sites a s with ⟨w, op, hw, -, hv⟩ | hi
  · rw [hv.state] at hd
    rcases Service.mem_outcome hd with hd | ⟨hid, htime, hworkspace⟩
    · exact .inl hd
    · exact .inr ⟨hid, htime, hworkspace ▸ hw⟩
  · rw [hi.state] at hd
    exact .inl hd

/-- Whatever the settings are besides the path, and whatever is stored: members that are none of a
request make no difference to any sequence of requests, and what a request creates has nothing
but its own members from a body. -/
theorem padded_standard (settings : Settings) (h : settings.apiPath = "/api/v1") :
    ∃ sites, SiteMap.ofSettings? settings = some sites ∧
      (∀ arrivals arrivals' s,
        List.Forall₂ (Arrival.Padded settings.maxBodySize) arrivals arrivals' →
          List.Forall₂ Response.SameButPlace ((standard settings).serveAll sites arrivals s).1
              ((standard settings).serveAll sites arrivals' s).1 ∧
            ((standard settings).serveAll sites arrivals s).2 =
              ((standard settings).serveAll sites arrivals' s).2) ∧
      ∀ a s, ∀ d ∈ ((standard settings).serve sites a s).state, d ∈ s ∨ d.StampedBy a :=
  ⟨_, SiteMap.ofSettings?_eq_standard h,
    fun _ _ s hp => serveAll_padded (standard settings) _ hp s, stamped_serve settings _⟩

/-! ## Bodies that are written without blanks -/

def quoted (t : String) : List Symbol := .char '\x22' :: (Text.symbols t ++ [.char '\x22'])

def bare (word : List Char) : List Symbol := word.map .char

def bracketed (b : Json.Bracket) (parts : List Part) : List Symbol :=
  b.opening :: partsText true parts [b.closing]

def writtenItem (value : List Symbol) : Part := ⟨[], value, []⟩

def writtenMember (name : String) (value : List Symbol) : Part :=
  ⟨quoted name ++ [.char ':'], value, []⟩

/-- A text in which no character has to be escaped. -/
def IsPlainText (t : List Char) : Prop := ∀ c ∈ t, c ≠ '\x22' ∧ c ≠ '\\' ∧ ¬ c.toNat < 0x20

instance (t : List Char) : Decidable (IsPlainText t) := List.decidableBAll _ t

section
open Json

variable {name : String} {value : List Symbol}

theorem spells_of_isPlainText {t : List Char} (h : IsPlainText t) :
    Spells (t.map .char ++ [.char '\x22']) t := by
  induction t with
  | nil => exact .close
  | cons c t ih =>
    obtain ⟨⟨hquote, hslash, hcontrol⟩, ht⟩ := List.forall_mem_cons.1 h
    exact .plain hquote hslash hcontrol (ih ht)

theorem isValue_quoted (h : IsPlainText name.toList) : IsValue (quoted name) :=
  .string (spells_of_isPlainText h).isString

theorem isPart_writtenItem (h : IsValue value) : (writtenItem value).IsPart .list :=
  ⟨.item (List.forall_mem_nil _), h, List.forall_mem_nil _⟩

theorem namesMember_writtenMember (hn : IsPlainText name.toList) :
    NamesMember (writtenMember name value).lead name.toList := by
  have hnil : IsBlanks [] := List.forall_mem_nil _
  exact .mk hnil (spells_of_isPlainText hn) hnil hnil

theorem isPart_writtenMember (hn : IsPlainText name.toList) (h : IsValue value) :
    (writtenMember name value).IsPart .object :=
  ⟨(namesMember_writtenMember hn).isLead, h, List.forall_mem_nil _⟩

theorem isOther_writtenMember (hn : IsPlainText name.toList) (h : IsValue value)
    (hname : name ∉ CreateRequest.fieldNames) :
    (writtenMember name value).IsOther CreateRequest.fieldNames :=
  ⟨⟨name.toList, namesMember_writtenMember hn, by rwa [String.ofList_toList]⟩, h,
    List.forall_mem_nil _⟩

theorem isValue_bracketed {b : Bracket} {parts : List Part} (h : ∀ p ∈ parts, p.IsPart b) :
    IsValue (bracketed b parts) :=
  .of_isPart h (List.forall_mem_nil _)

end

def ownMembers : List Part :=
  [writtenMember "name" (quoted "n"), writtenMember "pluginSrc" (quoted "p")]

/-- The own members with three others among them, two of one name. -/
def paddedMembers : List Part :=
  [writtenMember "id" (quoted "x"), writtenMember "name" (quoted "n"),
    writtenMember "workspaceId" (bracketed .object
      [writtenMember "id" (bracketed .list [writtenItem (bare ['n', 'u', 'l', 'l'])])]),
    writtenMember "pluginSrc" (quoted "p"), writtenMember "id" (bare ['t', 'r', 'u', 'e'])]

theorem isPart_ownMembers : ∀ p ∈ ownMembers, p.IsPart .object := by
  have hname : (writtenMember "name" (quoted "n")).IsPart .object :=
    isPart_writtenMember (by decide) (isValue_quoted (by decide))
  have hplugin : (writtenMember "pluginSrc" (quoted "p")).IsPart .object :=
    isPart_writtenMember (by decide) (isValue_quoted (by decide))
  exact List.forall_mem_cons.2 ⟨hname, List.forall_mem_singleton.2 hplugin⟩

theorem inserted_paddedMembers :
    Inserted (Part.IsOther CreateRequest.fieldNames) ownMembers paddedMembers := by
  have hlist : Json.IsValue (bracketed .list [writtenItem (bare ['n', 'u', 'l', 'l'])]) :=
    isValue_bracketed (List.forall_mem_singleton.2 (isPart_writtenItem .null))
  have hobject : Json.IsValue (bracketed .object
      [writtenMember "id" (bracketed .list [writtenItem (bare ['n', 'u', 'l', 'l'])])]) :=
    isValue_bracketed (List.forall_mem_singleton.2 (isPart_writtenMember (by decide) hlist))
  have hid : (writtenMember "id" (quoted "x")).IsOther CreateRequest.fieldNames :=
    isOther_writtenMember (by decide) (isValue_quoted (by decide)) (by decide)
  refine .insert hid (.keep _ (.insert ?_ (.keep _ (.insert ?_ .nil))))
  · exact isOther_writtenMember (by decide) hobject (by decide)
  · exact isOther_writtenMember (by decide) .true (by decide)

def postingBody (text : String) : Arrival :=
  { posting .nil 1 with
    request := { (posting .nil 1).request with body := text.toUTF8.toList } }

def ownPosting : Arrival :=
  postingBody "\x7b\x22name\x22:\x22n\x22,\x22pluginSrc\x22:\x22p\x22\x7d"

def paddedPosting : Arrival :=
  postingBody ("\x7b\x22id\x22:\x22x\x22,\x22name\x22:\x22n\x22," ++
    "\x22workspaceId\x22:\x7b\x22id\x22:[null]\x7d,\x22pluginSrc\x22:\x22p\x22,\x22id\x22:true\x7d")

theorem padded_paddedPosting : ownPosting.Padded ({} : Settings).maxBodySize paddedPosting := by
  have hown : Symbol.ofBytes ownPosting.request.body = bracketed .object ownMembers := by
    decide +kernel
  have hpadded : Symbol.ofBytes paddedPosting.request.body = bracketed .object paddedMembers := by
    decide +kernel
  have hnil : IsBlanks [] := List.forall_mem_nil _
  exact ⟨⟨rfl, rfl, fun _ _ => rfl, rfl, rfl, rfl⟩,
    @PaddedBodies.objects _ _ _ [] [] [] _ _ hown hpadded hnil hnil isPart_ownMembers
      inserted_paddedMembers (by decide +kernel) (by decide +kernel)⟩

theorem padded_postings :
    ({} : Settings).apiPath = "/api/v1" ∧ ∃ sites, SiteMap.ofSettings? {} = some sites ∧
      let arrivals := [ownPosting, ownPosting]
      let arrivals' := [paddedPosting, paddedPosting]
      let all := (standard {}).serveAll sites arrivals []
      let all' := (standard {}).serveAll sites arrivals' []
      List.Forall₂ (Arrival.Padded ({} : Settings).maxBodySize) arrivals arrivals' ∧
        List.Forall₂ Response.SameButPlace all.1 all'.1 ∧ all.2 = all'.2 ∧
        all'.1.map (·.status) = [201, 409] ∧
        ∀ d ∈ ((standard {}).serve sites paddedPosting []).state, d.StampedBy paddedPosting := by
  obtain ⟨sites, hs, hsame, hstamped⟩ := padded_standard {} rfl
  obtain rfl : SiteMap.standard true = sites :=
    Option.some.inj ((SiteMap.ofSettings?_eq_standard rfl).symm.trans hs)
  have hp : List.Forall₂ (Arrival.Padded ({} : Settings).maxBodySize) [ownPosting, ownPosting]
      [paddedPosting, paddedPosting] := .cons padded_paddedPosting (.cons padded_paddedPosting .nil)
  obtain ⟨hresponses, hstores⟩ := hsame _ _ [] hp
  refine ⟨rfl, _, hs, hp, hresponses, hstores, by decide +kernel, fun d hd => ?_⟩
  rcases hstamped paddedPosting [] d hd with hd | hd
  · cases hd
  · exact hd

def halfMember : Part :=
  ⟨bare ['\x22', '\\', 'u', 'd', '8', '0', '0', '\x22', ':'], bare ['t', 'r', 'u', 'e'], []⟩

open Json in
theorem isPart_halfMember : halfMember.IsPart .object := by
  have hnil : IsBlanks [] := List.forall_mem_nil _
  have hkey : IsString (bare ['\\', 'u', 'd', '8', '0', '0', '\x22']) := .code (by decide) .close
  exact ⟨.member hnil hkey hnil hnil, .true, hnil⟩

open Json in
theorem not_namesMember_half (t : List Char) : ¬ NamesMember halfMember.lead t := by
  intro h
  obtain ⟨before, key, between, gap, hbefore, hkey, -, -, htext⟩ := h.split
  have hlead := htext []
  cases before with
  | cons c before =>
    obtain rfl : Symbol.char '\x22' = c := (List.cons.inj hlead).1
    exact absurd (hbefore _ List.mem_cons_self) (by decide)
  | nil =>
    have hbody := stringBody_append hkey (between ++ .char ':' :: (gap ++ []))
    rw [← (List.cons.inj hlead).2] at hbody
    cases hbody

/-- A member whose name is no text is refused with the whole body. -/
theorem not_padded_half :
    let halfPosting := postingBody
      "\x7b\x22name\x22:\x22n\x22,\x22pluginSrc\x22:\x22p\x22,\x22\\ud800\x22:true\x7d"
    SiteMap.ofSettings? {} = some (.standard true) ∧
      Symbol.ofBytes ownPosting.request.body = bracketed .object ownMembers ∧
      Symbol.ofBytes halfPosting.request.body = bracketed .object (ownMembers ++ [halfMember]) ∧
      (∀ p ∈ ownMembers ++ [halfMember], p.IsPart .object) ∧
      (∀ t, Json.NamesMember halfMember.lead t → String.ofList t ∉ CreateRequest.fieldNames) ∧
      ((standard {}).serve (.standard true) ownPosting []).response.status = 201 ∧
      ((standard {}).serve (.standard true) halfPosting []).response.status = 400 := by
  refine ⟨SiteMap.ofSettings?_eq_standard rfl, by decide +kernel, by decide +kernel, ?_,
    fun t ht => absurd ht (not_namesMember_half t), by decide +kernel, by decide +kernel⟩
  exact List.forall_mem_append.2 ⟨isPart_ownMembers, List.forall_mem_singleton.2 isPart_halfMember⟩

end App

end SourceRegistry
