import Admission.Proofs.Store.Overlay
import Admission.Web.Usual

/-!
# What the interface relies on

What is proved about the web interface holds with every framework that keeps to a few rules, each
of which frameworks document: requests are routed by method and path, what a framework answers by
itself is an error, credentials are read from the header alone, and the fields that a body gives
are those that are declared, that are there, and that are not null.  The rules say nothing about
what types a framework takes for what, how it tells errors, or how it publishes values.

Main definitions:

* `Web.Request.Asks`, `Web.Request.UnderApi` — the requests that the rules are about;
* `Web.Framework.Documented` — the rules.

Main result: `Web.Framework.usual_documented` — the usual framework keeps to them.
-/

set_option autoImplicit false

namespace Admission.Web

/-- A request asks for an endpoint when it has its method and its path. -/
def Request.Asks (r : Request) (e : Endpoint) : Prop := r.method = e.method ∧ r.path = e.path

/-- The path of the request is below that of the interface. -/
def Request.UnderApi (r : Request) : Prop := ∃ rest, r.path = "" :: "api" :: rest

/-- If a rule is named in the path of an endpoint, it is named by something. -/
def Endpoint.Named (e : Endpoint) : Prop := e.ruleId? ≠ some ""

/-- What frameworks document, as far as the interface relies on it. -/
structure Framework.Documented (f : Framework) : Prop where
  /-- What is answered by the framework itself is an error: there is no such path or method, the
  credentials are missing, or the body cannot be read. -/
  answered : ∀ r response, r.UnderApi → f.receive r = .answered response → 400 ≤ response.status
  health : ∀ r, f.receive r = .health → ¬r.UnderApi
  /-- The caller is sent to a path that is known, to ask there with the same credentials. -/
  redirected : ∀ r r', f.receive r = .redirected r' →
    r'.authorization = r.authorization ∧ (r.UnderApi → r'.UnderApi) ∧
      ∀ r'', f.receive r' ≠ .redirected r''
  /-- Requests are routed by their method and path. -/
  routed : ∀ r e, r.Asks e → e.Named → (∃ response, f.receive r = .answered response) ∨
    ∃ token arguments, f.receive r = .handed e token arguments
  token : ∀ r e token arguments, f.receive r = .handed e token arguments →
    f.token? r.authorization = some token
  /-- A body that does not fit is answered by an error. -/
  unfit : ∀ r e token response, f.receive r = .handed e token (.error response) →
    400 ≤ response.status
  /-- The fields of a rule that are given are those that are declared, and that the body has with
  something else than null. -/
  fields : ∀ r id token fields, f.receive r = .handed (.updateRule id) token (.ok fields) →
    ∃ origin entries others, f.value? r.body = some (.mapping origin entries others) ∧
      ∀ key, key ∈ Table.keys fields ↔
        key ∈ Table.keys ruleBody ∧ Fields.getD entries key ≠ .null
  /-- The fields of a body are read one by one, and none of them has to be there. -/
  withoutId : ∀ r id token fields origin entries others,
    f.receive r = .handed (.updateRule id) token (.ok fields) →
      f.value? r.body = some (.mapping origin entries others) →
        f.receive { r with body := .json (.mapping origin (Table.erase entries "id") others) } =
          .handed (.updateRule id) token (.ok (Table.erase fields "id"))

/-! ### The usual framework -/

/-- The sign of life is not below the path of the interface. -/
theorem destinations_api (rest : List String) :
    ∀ found ∈ destinations ("" :: "api" :: rest), found.2 ≠ .health := by
  unfold destinations
  split
  · next name hname =>
      cases hname
      simp [isLast]
  · repeat' split
    all_goals simp
  · unfold ruleDestinations
    repeat' split
    all_goals simp
  · split <;> simp
  · simp

section Route

variable {method : String} {path : List String} {e : Endpoint}

theorem route_health (h : route method path = .to .health) (rest : List String) :
    path ≠ "" :: "api" :: rest := by
  rintro rfl
  unfold route at h
  split at h
  · next found hget =>
      cases h
      exact destinations_api rest _ (Host.mem_of_get? hget) rfl
  · repeat' split at h
    all_goals cases h

/-- Who is sent elsewhere is sent to a known path. -/
theorem route_withoutSlashes (h : route method path = .elsewhere) (other : String) :
    route other (withoutSlashes path) ≠ .elsewhere := by
  have hknown : (destinations (withoutSlashes path)).isEmpty = false := by
    unfold route at h
    repeat' split at h
    all_goals simp_all
  unfold route
  repeat' split
  all_goals simp_all

/-- Every endpoint is found by its own method and path. -/
theorem route_path (he : e.Named) : route e.method e.path = .to (.endpoint e) := by
  have hget : Table.get? (destinations e.path) e.method = some (.endpoint e) := by
    cases e with
    | listRules | listPlugins | listCommands | createRule | reorderRules => rfl
    | updateRule id | deleteRule id =>
        have hid : id ≠ "" := fun h => he (congrArg some h)
        change Table.get? (ruleDestinations id) _ = _
        rw [ruleDestinations, if_neg hid]
        split <;> rfl
    | toggleRule id =>
        have hid : id ≠ "" := fun h => he (congrArg some h)
        change Table.get? (if id ≠ "" ∧ isLast "toggle" "toggle" = true then _ else _) _ = _
        rw [if_pos ⟨hid, rfl⟩]
        rfl
  rw [route, hget]

end Route

/-- Slashes are removed at the end alone. -/
theorem withoutSlashes_api (rest : List String) :
    ∃ rest', withoutSlashes ("" :: "api" :: rest) = "" :: "api" :: rest' := by
  have hreverse : ("" :: "api" :: rest).reverse = rest.reverse ++ ["api", ""] := by simp
  -- read from the end, the blanks stop at the latest in front of the segment that is not blank
  rw [withoutSlashes, hreverse, List.dropWhile_append]
  split
  · exact ⟨[], rfl⟩
  · exact ⟨_, List.reverse_append⟩

/-! ### Reading bodies -/

section Fields

variable {entries fields : Fields} {name key : String} {type : Schema.FieldType}
  {types : Table Schema.FieldType}

/-- A field that was read has its name, and is there when the body has it with something else than
null. -/
theorem mem_keys_optionalField? (h : optionalField? entries name type = some fields) :
    key ∈ Table.keys fields ↔ key = name ∧ Fields.getD entries key ≠ .null := by
  unfold optionalField? at h
  split at h
  · next hnull =>
      cases h
      simp only [Table.keys, List.map_nil, List.not_mem_nil, false_iff, not_and, not_not]
      rintro rfl
      exact hnull
  · next hne =>
      obtain ⟨v, -, rfl⟩ := Option.map_eq_some_iff.1 h
      change key ∈ [name] ↔ _
      rw [List.mem_singleton]
      refine ⟨?_, And.left⟩
      rintro rfl
      exact ⟨rfl, hne⟩

theorem mem_keys_readFields? (h : readFields? entries types = some fields) :
    key ∈ Table.keys fields ↔ key ∈ Table.keys types ∧ Fields.getD entries key ≠ .null := by
  induction types generalizing fields with
  | nil =>
      cases h
      simp [Table.keys]
  | cons declared types ih =>
      obtain ⟨field, hfield, h⟩ := Option.bind_eq_some_iff.1 h
      obtain ⟨rest, hrest, h⟩ := Option.bind_eq_some_iff.1 h
      cases h
      rw [Table.keys_append, List.mem_append, mem_keys_optionalField? hfield, ih hrest,
        ← or_and_right]
      change _ ↔ key ∈ declared.1 :: Table.keys types ∧ _
      rw [List.mem_cons]

/-- Without an entry of the body, the field of that name is missing and the others stay. -/
theorem optionalField?_erase (h : optionalField? entries name type = some fields)
    (removed : String) : optionalField? (Table.erase entries removed) name type =
      some (Table.erase fields removed) := by
  rw [optionalField?, Fields.getD, Table.get?_erase]
  by_cases hname : name = removed
  · subst hname
    have hgone : Table.erase fields name = [] := by
      refine List.filter_eq_nil_iff.2 fun e he => ?_
      have hkey : e.1 ∈ Table.keys fields := List.mem_map_of_mem he
      simpa using ((mem_keys_optionalField? h).1 hkey).1
    rw [if_pos rfl, hgone]
    rfl
  · -- all that was read stands under the name, so that nothing of it is removed
    have hkept : Table.erase fields removed = fields := by
      refine List.filter_eq_self.2 fun e he => ?_
      have hkey : e.1 ∈ Table.keys fields := List.mem_map_of_mem he
      rw [((mem_keys_optionalField? h).1 hkey).1]
      simpa using hname
    rw [if_neg hname, hkept, ← h]
    rfl

theorem readFields?_erase (h : readFields? entries types = some fields) (removed : String) :
    readFields? (Table.erase entries removed) types = some (Table.erase fields removed) := by
  induction types generalizing fields with
  | nil =>
      cases h
      rfl
  | cons declared types ih =>
      obtain ⟨field, hfield, h⟩ := Option.bind_eq_some_iff.1 h
      obtain ⟨rest, hrest, h⟩ := Option.bind_eq_some_iff.1 h
      cases h
      rw [readFields?, optionalField?_erase hfield, ih hrest]
      simp [Table.erase]

end Fields

/-- The fields of a rule are read from a mapping. -/
theorem ruleFields?_eq_some {v : Value} {fields : Fields} (h : ruleFields? v = some fields) :
    ∃ origin entries others, v = .mapping origin entries others ∧
      readFields? entries ruleBody = some fields := by
  obtain ⟨entries, hentries, hread⟩ := Option.bind_eq_some_iff.1 h
  cases v with
  | mapping origin found others =>
      cases hentries
      exact ⟨origin, _, others, rfl, hread⟩
  | _ => cases hentries

/-! ### Receiving requests -/

/-- What the usual framework makes of a request: it refuses it, sends it elsewhere, takes it for a
question whether the site is alive, or hands it to the endpoint to which its method and path lead,
with what the body gives or with a refusal for what does not fit. -/
inductive Receives (r : Request) : Received → Prop where
  | refused {response : Response} (hstatus : 400 ≤ response.status) :
    Receives r (.answered response)
  | elsewhere (hroute : route r.method r.path = .elsewhere) :
    Receives r (.redirected { r with path := withoutSlashes r.path })
  | alive (hroute : route r.method r.path = .to .health) : Receives r .health
  | fitting {e : Endpoint} {token : String} {arguments : e.Arguments}
    (hroute : route r.method r.path = .to (.endpoint e))
    (htoken : tokenOf? r.authorization = some token)
    (hbody : e.arguments? (r.body.content.value?.getD .null) = some arguments) :
    Receives r (.handed e token (.ok arguments))
  | unfit {e : Endpoint} {token : String} (hroute : route r.method r.path = .to (.endpoint e))
    (htoken : tokenOf? r.authorization = some token) :
    Receives r (.handed e token (.error .unprocessable))

theorem refusal?_status {e : Endpoint} {content : Content} {response : Response}
    (h : e.refusal? content = some response) : 400 ≤ response.status := by
  cases content with
  | refused failure =>
      obtain ⟨-, hresponse⟩ := Option.ite_none_right_eq_some.1 h
      cases hresponse
      cases failure <;> decide
  | absent | value v => cases h

theorem receive_eq_handed {e : Endpoint} {authorization : Option String} {content : Content}
    {token : String} {arguments : e.Arguments} (hrefusal : e.refusal? content = none)
    (htoken : tokenOf? authorization = some token)
    (hbody : e.arguments? (content.value?.getD .null) = some arguments) :
    e.receive authorization content = .handed e token (.ok arguments) := by
  simp only [Endpoint.receive, hrefusal, htoken, hbody]

theorem receives_endpoint {r : Request} {e : Endpoint}
    (hroute : route r.method r.path = .to (.endpoint e)) :
    Receives r (e.receive r.authorization r.body.content) := by
  unfold Endpoint.receive
  cases hrefusal : e.refusal? r.body.content with
  | some response => exact .refused (refusal?_status hrefusal)
  | none =>
      cases htoken : tokenOf? r.authorization with
      | none => exact .refused (by decide)
      | some token =>
          dsimp only
          split
          · next harguments => exact .fitting hroute htoken harguments
          · exact .unfit hroute htoken

theorem usual_receives (r : Request) : Receives r (Framework.usual.receive r) := by
  unfold Framework.usual
  dsimp only
  split
  · exact .refused (by decide)
  · exact .refused (by decide)
  · next hroute => exact .elsewhere hroute
  · next hroute => exact .alive hroute
  · next hroute => exact receives_endpoint hroute

theorem receives_of_eq {r : Request} {received : Received}
    (h : Framework.usual.receive r = received) : Receives r received := h ▸ usual_receives r

/-- A request for an endpoint is not sent elsewhere. -/
theorem usual_routed {r : Request} {e : Endpoint} (hasks : r.Asks e) (he : e.Named) :
    Framework.usual.receive r = e.receive r.authorization r.body.content := by
  have hroute : route r.method r.path = .to (.endpoint e) := by
    rw [hasks.1, hasks.2]
    exact route_path he
  simp only [Framework.usual, hroute]

/-- The usual framework keeps to what frameworks document. -/
theorem Framework.usual_documented : Framework.usual.Documented where
  answered := by
    intro r response _ h
    obtain ⟨hstatus⟩ := receives_of_eq h
    exact hstatus
  health := by
    rintro r h ⟨rest, hpath⟩
    cases receives_of_eq h with
    | alive hroute => exact route_health hroute rest hpath
  redirected := by
    intro r r' h
    cases receives_of_eq h with
    | elsewhere hroute =>
        refine ⟨rfl, ?_, ?_⟩
        · rintro ⟨rest, hpath⟩
          obtain ⟨rest', hrest⟩ := withoutSlashes_api rest
          exact ⟨rest', (congrArg withoutSlashes hpath).trans hrest⟩
        · intro r'' h'
          cases receives_of_eq h' with
          | elsewhere hagain => exact route_withoutSlashes hroute _ hagain
  routed := by
    intro r e hasks he
    rw [usual_routed hasks he]
    unfold Endpoint.receive
    repeat' split
    · exact .inl ⟨_, rfl⟩
    · exact .inl ⟨_, rfl⟩
    · exact .inr ⟨_, _, rfl⟩
    · exact .inr ⟨_, _, rfl⟩
  token := by
    intro r e token arguments h
    cases receives_of_eq h with
    | fitting _ htoken => exact htoken
    | unfit _ htoken => exact htoken
  unfit := by
    intro r e token response h
    cases receives_of_eq h
    decide
  fields := by
    intro r id token fields h
    cases receives_of_eq h with
    | fitting _ _ hbody =>
        obtain ⟨origin, entries, others, hvalue, hread⟩ := ruleFields?_eq_some hbody
        refine ⟨origin, entries, others, ?_, fun key => mem_keys_readFields? hread⟩
        change r.body.content.value? = _
        cases hcontent : r.body.content.value? with
        | none =>
            rw [hcontent] at hvalue
            cases hvalue
        | some v =>
            rw [hcontent] at hvalue
            exact congrArg some hvalue
  withoutId := by
    intro r id token fields origin entries others h hvalue
    cases receives_of_eq h with
    | fitting hroute htoken hbody =>
        have hread : ruleFields? (.mapping origin entries others) = some fields := by
          rwa [show r.body.content.value? = _ from hvalue] at hbody
        have hshorter : ruleFields? (.mapping origin (Table.erase entries "id") others) =
            some (Table.erase fields "id") := readFields?_erase hread "id"
        simp only [usual, hroute]
        exact receive_eq_handed rfl htoken hshorter

end Admission.Web
