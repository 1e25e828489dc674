import Admission.Proofs.Operation.Reachable
import Admission.Proofs.Store.Overlay
import Admission.Proofs.Web.Access

/-!
# Updating a rule by a request

A request that updates a rule names it in its path.  The framework gives the fields that the body
has with something else than null.  They are laid over the rule, under the id of the path.
Whatever the body has for an id is overwritten; it only has to be of a type that an id can have, or
else the framework refuses the whole body.

Main results:

* `Site.answer_withoutId` — the id in the body is ignored;
* `Site.answer_update` — a request that may update a rule lays its fields over it;
* `Site.updates_by_parts` — **updating works part by part**, in the store and by requests.
-/

set_option autoImplicit false

namespace Admission

open Web

theorem Rule.Part.key_mem_ruleBody (p : Rule.Part) : p.key ∈ Table.keys ruleBody := by
  cases p <;> decide

namespace Store

/-- The id among entries makes no difference to what they make of a rule. -/
theorem overlay_erase_id (r : Rule) (entries : Fields) (id : Value) :
    overlay r (Table.set (Table.erase entries "id") "id" id) =
      overlay r (Table.set entries "id" id) := by
  refine overlay_eq_of_get? r fun p => ?_
  have hreverse : (Table.erase entries "id").reverse = Table.erase entries.reverse "id" :=
    List.filter_reverse.symm
  rw [Table.get?_reverse_set _ _ _ p.key_ne_id, Table.get?_reverse_set _ _ _ p.key_ne_id,
    hreverse, Table.get?_erase, if_neg p.key_ne_id]

/-- Entries that make the same of every rule and name the same rule are the same update. -/
theorem update_eq_of_overlay (s : Store) {a b : Fields}
    (hid : Fields.getD a "id" = Fields.getD b "id") (h : ∀ r, overlay r a = overlay r b) :
    s.update (.ofFields a) = s.update (.ofFields b) := by
  simp only [update, hid, h]

end Store

namespace Site

variable {s : Site} {f : Framework} (subscribers : List String) {r : Request} {e : Endpoint}
  {id token : String} {origin : Option Nat} {entries fields : Fields}
  {others : List (Nat × Value × Value)}

/-! ### What comes of an update -/

/-- After an update the rules are those that the store makes of it, whatever the answer is. -/
theorem perform_update_rules {data : Value} {q : Rule} {next : Store}
    (h : s.load.engine.store.update data = some (q, next)) :
    (s.perform subscribers (.update data)).2.rules = next.rules := by
  have hloaded : ((s.load.setStore next).noteOperation
      ("Updated rule " ++ q.id)).engine.loaded = true := by
    rw [noteOperation_engine]
    exact s.load_loaded
  rw [perform, updateRule, h]
  dsimp only
  rw [changed_snd, published_rules hloaded, rules, noteOperation_engine]
  rfl

/-- Updates that a store does not tell apart are answered alike. -/
theorem dispatch_update_congr {a b : Value}
    (h : ∀ store : Store, store.update a = store.update b) (granted : Value) :
    s.dispatch subscribers "filter-pro/update" a granted =
      s.dispatch subscribers "filter-pro/update" b granted := by
  have hperform : s.perform subscribers (.update a) = s.perform subscribers (.update b) := by
    simp only [perform, updateRule, h]
  have hknown : ∀ payload, Operation.ofEvent? "filter-pro/update" payload =
      some (.update payload) := fun _ => rfl
  simp only [dispatch, hknown, hperform]

/-! ### The id in the body -/

/-- **The id in the body is ignored**: the request is answered as if the body had none. -/
theorem answer_withoutId (hf : f.Documented)
    (hreceived : f.receive r = .handed (.updateRule id) token (.ok fields))
    (hbody : f.value? r.body = some (.mapping origin entries others)) :
    s.answer f subscribers r = s.answer f subscribers
      { r with body := .json (.mapping origin (Table.erase entries "id") others) } := by
  -- the id of the path is written over whatever id the body gave
  have hupdate : ∀ store : Store,
      store.update (.ofFields (Table.set fields "id" (.str id))) =
        store.update (.ofFields (Table.set (Table.erase fields "id") "id" (.str id))) := by
    intro store
    refine store.update_eq_of_overlay ?_ fun r => (Store.overlay_erase_id r fields _).symm
    rw [Fields.getD_set_self, Fields.getD_set_self]
  rw [answer_of_handed subscribers hreceived,
    answer_of_handed subscribers
      (hf.withoutId r id token fields origin entries others hreceived hbody)]
  simp only [answerHanded, Endpoint.event, dispatch_update_congr subscribers hupdate]

/-! ### What a request does -/

/-- A request that the framework does not accept changes nothing. -/
theorem answer_of_not_accepts (hf : f.Documented) (hasks : r.Asks e) (he : e.Named)
    (h : ¬f.Accepts r) : (s.answer f subscribers r).2 = s := by
  obtain ⟨response, hreceived⟩ | ⟨token, arguments, hreceived⟩ := hf.routed r e hasks he
  -- the framework answers by itself, or hands over a refusal in place of the arguments
  · simp only [answer, hreceived]
  · rw [answer_of_handed subscribers hreceived]
    cases arguments with
    | error response =>
        unfold answerHanded
        split <;> rfl
    | ok arguments => exact absurd ⟨e, token, arguments, hreceived⟩ h

/-- A request that may update a rule lays its fields over the rule. -/
theorem answer_update (hf : f.Documented) (hs : s.load.engine.store.Sound)
    (hauthorised : r.Authorised f s)
    (hreceived : f.receive r = .handed (.updateRule id) token (.ok fields)) {place : Nat}
    {prev : Rule} (hprev : s.load.rules[place]? = some prev) (hid : prev.id = id) :
    (s.answer f subscribers r).2.rules = s.load.rules.set place
      (Store.overlay prev (Table.set fields "id" (.str id))) := by
  subst hid
  have hne : prev.id ≠ "" := (hs.settled prev (List.mem_of_getElem? hprev)).id_ne
  have hupdate : s.load.engine.store.update
      (.ofFields (Table.set fields "id" (.str prev.id))) = some (_, _) :=
    Store.update_of_getElem? hs.ids_nodup hprev hne rfl (Fields.getD_set_self _ _ _)
  rw [answer_of_authorised subscribers hf hauthorised hreceived rfl]
  exact perform_update_rules subscribers hupdate

/-! ### Part by part -/

/-- **Updating works part by part.**

A mapping that names a stored rule by its id leaves every part of the rule that it does not mention
as it is, makes of every part that it mentions what normalising that entry alone makes of it, and
leaves the id, the place and all other rules alone.

A request that updates a rule does nothing when it is refused or no rule has the id in its path.
Otherwise it replaces the rule with that id at its place: the fields that the body has with
something else than null are laid over it.  Fields that are missing in the body or null there leave
the part as it is, and an id in the body makes no difference to anything. -/
theorem updates_by_parts :
    (∀ store : Store, store.Sound → ∀ place r, store.rules[place]? = some r →
      ∀ data entries, data.fields? = some entries → Fields.getD entries "id" = .str r.id →
        ∃ q, store.update data = some (q, ⟨store.rules.set place q⟩) ∧ q.IsOverlay r entries) ∧
    ∀ f : Framework, f.Documented → ∀ s subscribers r id, Reachable s → id ≠ "" →
      Request.Asks r (.updateRule id) →
      (¬r.Authorised f s ∨ ¬f.Accepts r → (s.answer f subscribers r).2 = s) ∧
      (r.Authorised f s → f.Accepts r → ∃ origin entries others fields token,
        f.value? r.body = some (.mapping origin entries others) ∧
        f.receive r = .handed (.updateRule id) token (.ok fields) ∧
        (∀ p : Rule.Part, p.key ∈ Table.keys fields ↔ Fields.getD entries p.key ≠ .null) ∧
        s.answer f subscribers r = s.answer f subscribers
          { r with body := .json (.mapping origin (Table.erase entries "id") others) } ∧
        (id ∉ s.load.engine.store.ids → (s.answer f subscribers r).2 = s.load) ∧
        ∀ place prev, s.load.rules[place]? = some prev → prev.id = id → ∃ q,
          (s.answer f subscribers r).2.rules = s.load.rules.set place q ∧
          q.IsOverlay prev (Table.set fields "id" (.str id)) ∧
          ∀ p : Rule.Part, Fields.getD entries p.key = .null → p.Agree q prev) := by
  refine ⟨?_, ?_⟩
  · intro store hs place r hr data entries hdata hid
    have hsettled := hs.settled r (List.mem_of_getElem? hr)
    exact ⟨Store.overlay r entries,
      Store.update_of_getElem? hs.ids_nodup hr hsettled.id_ne hdata hid,
      Store.overlay_isOverlay hsettled entries⟩
  · intro f hf s subscribers r id hs hne hasks
    have hnamed : (Endpoint.updateRule id).Named := fun heq => hne (Option.some.inj heq)
    refine ⟨?_, ?_⟩
    · rintro (hrefused | hrefused)
      · exact (answer_refused subscribers hf ⟨["rules", id], hasks.2⟩ hrefused).1
      · exact answer_of_not_accepts subscribers hf hasks hnamed hrefused
    · intro hauthorised haccepts
      obtain ⟨token, fields, hreceived⟩ := haccepts.handed hf hasks hnamed
      obtain ⟨origin, entries, others, hbody, hkeys⟩ := hf.fields r id token fields hreceived
      have hparts : ∀ p : Rule.Part,
          p.key ∈ Table.keys fields ↔ Fields.getD entries p.key ≠ .null := fun p =>
        (hkeys p.key).trans (and_iff_right p.key_mem_ruleBody)
      refine ⟨origin, entries, others, fields, token, hbody, hreceived, hparts,
        answer_withoutId subscribers hf hreceived hbody,
        (answer_named subscribers hf hasks rfl hne hauthorised haccepts).2, ?_⟩
      intro place prev hprev hid
      have hsound := load_sound hs.sound
      have hoverlay := Store.overlay_isOverlay
        (hsound.settled prev (List.mem_of_getElem? hprev)) (Table.set fields "id" (.str id))
      refine ⟨_, answer_update subscribers hf hsound hauthorised hreceived hprev hid, hoverlay, ?_⟩
      intro p hnull
      refine hoverlay.kept p fun hmem => ?_
      exact (hparts p).1 ((Table.mem_keys_set_of_ne p.key_ne_id _).1 hmem) hnull

/-- A rule about a word. -/
def aboutSpam : Rule :=
  { Rule.blank "spam" with
    priority := 5
    condition := .compare "content" "includes" (.str "buy")
    response := "no" }

/-- A site with that rule alone. -/
def spamSite : Site := newSite.run [.load, .edit (.create aboutSpam.toValue)]

/-- An administrator switches the rule off, and says something about its id and its name. -/
def calmed : Request :=
  ⟨"PUT", ["", "api", "rules", "spam"], some "Bearer dev-token-change-me",
    .json (.ofFields [("id", .str "ham"), ("name", .null), ("enabled", .bool false)])⟩

theorem updates_by_parts_spamSite :
    Framework.usual.Documented ∧ spamSite.Reachable ∧ calmed.Asks (.updateRule "spam") ∧
      calmed.Authorised .usual spamSite ∧ Framework.usual.Accepts calmed ∧
      (∃ q, (spamSite.answer .usual [] calmed).2.rules = [q] ∧ q.id = "spam" ∧
        q.name = aboutSpam.name ∧ q.enabled = false ∧ q.condition = aboutSpam.condition) ∧
      spamSite.answer .usual [] calmed = spamSite.answer .usual [] { calmed with
        body := .json (.ofFields [("name", .null), ("enabled", .bool false)]) } ∧
      ∃ q, (spamSite.load.engine.store.update
          (.ofFields [("id", .str "spam"), ("priority", .str "7.5")])) = some (q, ⟨[q]⟩) ∧
        q.priority = 7 ∧ q.condition = aboutSpam.condition := by
  have hreach : spamSite.Reachable := (Reachable.start .bare .empty _ _ _ _).run _
  have hasks : calmed.Asks (.updateRule "spam") := ⟨rfl, rfl⟩
  have hauthorised : calmed.Authorised .usual spamSite :=
    ⟨⟨"dev-token-change-me", by decide +kernel, by decide +kernel⟩, by
      unfold Authority.Suffices
      decide +kernel⟩
  have hnamed : (Endpoint.updateRule "spam").Named := by
    simp [Endpoint.Named, Endpoint.ruleId?]
  have hhanded : Framework.usual.receive calmed = .handed (.updateRule "spam")
      "dev-token-change-me" (.ok [("id", .str "ham"), ("enabled", .bool false)]) :=
    (usual_routed hasks hnamed).trans (receive_eq_handed rfl (by decide +kernel) rfl)
  have hrules : spamSite.load.rules = [aboutSpam] := rfl
  have hplace : spamSite.load.rules[0]? = some aboutSpam := by rw [hrules]; rfl
  obtain ⟨hstore, hsite⟩ := updates_by_parts
  obtain ⟨-, hbody⟩ := hsite .usual Framework.usual_documented spamSite [] calmed "spam" hreach
    (by decide) hasks
  obtain ⟨origin, entries, others, fields, token, hvalue, hreceived, -, hignored, -, hupdated⟩ :=
    hbody hauthorised ⟨_, _, _, hhanded⟩
  cases hvalue
  rw [hhanded] at hreceived
  cases hreceived
  obtain ⟨q, hq, hoverlay, hnull⟩ := hupdated 0 aboutSpam hplace rfl
  obtain ⟨q', hq', hoverlay'⟩ := hstore spamSite.load.engine.store (load_sound hreach.sound) 0
    aboutSpam hplace (.ofFields [("id", .str "spam"), ("priority", .str "7.5")]) _ rfl rfl
  refine ⟨Framework.usual_documented, hreach, hasks, hauthorised, ⟨_, _, _, hhanded⟩,
    ⟨q, ?_, hoverlay.id, hnull .name rfl, ?_, hnull .condition rfl⟩, hignored, q', ?_, ?_, ?_⟩
  · rw [hq, hrules]
    rfl
  · exact hoverlay.taken .enabled [("id", .str "spam")] (.bool false) [] rfl List.not_mem_nil
      (.counting 0 1)
  · rw [hq', show spamSite.load.engine.store.rules = [aboutSpam] from hrules]
    rfl
  · have hpriority : q'.priority = (Rule.ofValue (.ofFields [("priority", .str "7.5")])
        (.counting 0 1)).1.priority :=
      hoverlay'.taken .priority [("id", .str "spam")] (.str "7.5") [] rfl List.not_mem_nil
        (.counting 0 1)
    rw [hpriority]
    decide +kernel
  · exact hoverlay'.kept .condition (by decide)

end Site

end Admission
