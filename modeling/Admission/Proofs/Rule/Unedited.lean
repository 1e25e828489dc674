import Admission.Engine.Enforce
import Admission.Proofs.Engine.Restart
import Admission.Proofs.Json.Number
import Admission.Proofs.Rule.Decisive
import Admission.Proofs.Table

/-!
# Rules that have not been edited yet

A rule that is made without a usable condition gets the starting condition, which is meant to hold
of nothing until somebody edits it.  It asks for an empty guild.  But a session without a guild has
an empty one as soon as it is looked at by its attribute map, so the starting condition holds of
every such session: of all that is said in private, for one.

Here it is said what such a rule does to decisions.  Nothing comes of it where the session has a
guild, where the rule does not apply, and where a rule that settles the matter is asked before it.
In all other cases the rule decides, and as rules are enabled, block, and apply to every message
unless they say otherwise, the session is blocked.

Main definitions:

* `Value.isCondition` — a value that is usable as a condition;
* `Session.InGuild` — a session that has a guild;
* `DecisionPoint`, `DecisionPoint.decision` — the three places where rules decide.

Main results:

* `Expr.evaluate_starting` — the starting condition holds where there is no guild;
* `Site.decideMessage_quiet`, `Site.decideCommand_quiet`, `admits_snd` — the decisions of an engine
  are those at the three places;
* `Rule.ofValue_unedited_decides` — **what a rule without a usable condition decides**.
-/

set_option autoImplicit false

namespace Admission

/-! ### The starting condition -/

/-- The value is a condition: a mapping that names a kind of condition, or a ready-made one. -/
def Value.isCondition : Value → Bool
  | .mapping _ entries _ => (Expr.kind? entries).isSome
  | .expr _ => true
  | _ => false

theorem Expr.ofValue_of_not_isCondition {v : Value} (h : v.isCondition = false) :
    ofValue v = starting := by
  cases v with
  | mapping origin entries others =>
      have hkind : kind? entries = none := by simpa [Value.isCondition] using h
      rw [ofValue, hkind]
  | expr e => cases h
  | null | bool | int | float | str | list | tuple | object | target | rule => rfl

/-- The starting condition holds of an empty guild and of no other. -/
theorem Expr.evaluate_starting {vars : Fields} {guild : String}
    (h : Table.get? vars "guildId" = some (.str guild)) :
    starting.evaluate (.ofFields vars) = .ok (guild == "") := by
  have hpath : Value.segments "guildId" = ["guildId".toList] := by decide
  have hlookup : (Value.ofFields vars).lookup "guildId" = .ok (some (.str guild)) := by
    rw [Value.lookup, if_neg (by decide), hpath]
    simp only [Value.follow, Value.part, String.ofList_toList, h]
  have hname : Comparison.ofName? "eq" = some .equal := by decide
  have heval : starting.evaluate (.ofFields vars) =
      (Comparison.holdsFor .equal (.str guild) (.str "")).bind fun b =>
        if b then .ok true else .ok false := by
    simp only [starting, evaluate, allHold, hlookup, Comparison.namedHolds, hname]
    rfl
  rw [heval]
  change (if guild == "" then Except.ok true else Except.ok false) = _
  cases guild == "" <;> rfl

/-! ### Sessions with and without a guild -/

theorem ne_empty_of_toList {text : String} {front rest : List Char} {c : Char}
    (h : text.toList = front ++ c :: rest) : text ≠ "" := by
  rintro rfl
  simp at h

theorem Value.bracketed_ne_empty {opening : String} (h : opening ≠ "") (closing : String)
    (items : List String) : bracketed opening closing items ≠ "" := by
  simp [bracketed, h]

theorem exists_of_map_eq_ok {α β : Type} {x : Except Fault α} {f : α → β} {b : β}
    (h : x.map f = .ok b) : ∃ a, x = .ok a ∧ f a = b := by
  cases x with
  | error fault => cases h
  | ok a => exact ⟨a, rfl, Except.ok.inj h⟩

/-- A computation in steps that succeeds has succeeded in its first step. -/
theorem exists_of_bind_eq_ok {α β : Type} {x : Except Fault α} {f : α → Except Fault β} {b : β}
    (h : x >>= f = .ok b) : ∃ a, x = .ok a ∧ f a = .ok b := by
  cases x with
  | error fault => cases h
  | ok a => exact ⟨a, rfl, h⟩

theorem Expr.written_ne_empty {e : Expr} {text : String} (h : e.written = .ok text) :
    text ≠ "" := by
  cases e with
  | group operator children =>
      rw [written] at h
      obtain ⟨texts, -, heq⟩ := exists_of_map_eq_ok h
      exact heq ▸ Value.bracketed_ne_empty (by decide) _ _
  | negation child =>
      rw [written] at h
      obtain ⟨texts, -, heq⟩ := exists_of_map_eq_ok h
      exact heq ▸ Value.bracketed_ne_empty (by decide) _ _
  | compare field operator value =>
      rw [written] at h
      obtain ⟨texts, -, heq⟩ := exists_of_map_eq_ok h
      exact heq ▸ Value.bracketed_ne_empty (by decide) _ _

/-- Every value but a text is written with some characters, and so is a text in quotes. -/
theorem Value.written_ne_empty {v : Value} {text : String} (h : v.written = .ok text) :
    text ≠ "" := by
  cases v with
  | null =>
      cases h
      decide
  | bool b =>
      cases h
      cases b <;> decide
  | int i =>
      rw [written, Integer.decimal?] at h
      split at h
      · cases h
        obtain ⟨c, rest, hcons, -⟩ := (Json.whole_toDigits i.natAbs).exists_cons
        exact ne_empty_of_toList (hcons ▸ Json.toList_decimal i)
      · cases h
  | float d =>
      cases h
      cases d with
      | finite negative rank =>
          obtain ⟨d, hspells, -⟩ := Json.exists_spells rank
          obtain ⟨c, rest, hcons, -⟩ := hspells.exists_cons
          exact ne_empty_of_toList (hcons ▸ Json.toList_finite _ negative rank)
      | infinite negative => cases negative <;> decide
      | nan => decide
  | str s =>
      cases h
      simp [Text.quoted]
  | list origin items =>
      rw [written] at h
      obtain ⟨texts, -, heq⟩ := exists_of_map_eq_ok h
      exact heq ▸ bracketed_ne_empty (by decide) _ _
  | tuple origin items =>
      rw [written] at h
      obtain ⟨texts, -, heq⟩ := exists_of_map_eq_ok h
      rw [← heq]
      split
      · simp
      · exact bracketed_ne_empty (by decide) _ _
  | mapping origin entries others =>
      rw [written] at h
      obtain ⟨texts, -, h⟩ := exists_of_bind_eq_ok h
      obtain ⟨more, -, h⟩ := exists_of_bind_eq_ok h
      exact Except.ok.inj h ▸ bracketed_ne_empty (by decide) _ _
  | object origin kind entries =>
      rw [written] at h
      split at h
      · obtain ⟨texts, -, heq⟩ := exists_of_map_eq_ok h
        exact heq ▸ bracketed_ne_empty (by decide) _ _
      · cases h
        simp
  | expr e =>
      rw [written] at h
      exact Expr.written_ne_empty h
  | target t =>
      cases h
      exact bracketed_ne_empty (by decide) _ _
  | rule id name enabled priority action target condition response =>
      rw [written] at h
      obtain ⟨priority, -, h⟩ := exists_of_bind_eq_ok h
      obtain ⟨condition, -, h⟩ := exists_of_bind_eq_ok h
      exact Except.ok.inj h ▸ bracketed_ne_empty (by decide) _ _

namespace Session

/-- The session has a guild. -/
def InGuild (s : Session) : Prop := s.guildId ≠ .null ∧ s.guildId ≠ .str ""

/-- Only what is missing or empty reads as the empty text. -/
theorem text_eq_ok {v t : Value} (h : text v = .ok t) :
    ∃ s, t = .str s ∧ (s = "" ↔ v = .null ∨ v = .str "") := by
  have hwritten : ∀ w : Value, w.written.map Value.str = .ok t → w ≠ .null → (∀ s, w ≠ .str s) →
      ∃ s, t = .str s ∧ (s = "" ↔ w = .null ∨ w = .str "") := by
    intro w hw hnull hstr
    cases hs : w.written with
    | error fault =>
        rw [hs] at hw
        cases hw
    | ok s =>
        rw [hs] at hw
        exact ⟨s, (Except.ok.inj hw).symm, by simp [Value.written_ne_empty hs, hnull, hstr]⟩
  cases v with
  | null => exact ⟨"", (Except.ok.inj h).symm, by simp⟩
  | str s => exact ⟨s, (Except.ok.inj h).symm, by simp⟩
  | bool | int | float | list | tuple | mapping | object | expr | target | rule =>
      exact hwritten _ h nofun nofun

/-- The attribute map holds the guild as a text, which is empty where there is none. -/
theorem exists_guild {s : Session} {vars : Fields} (h : s.vars = .ok vars) :
    ∃ guild, Table.get? vars "guildId" = some (.str guild) ∧ (guild = "" ↔ ¬ s.InGuild) := by
  rw [Session.vars] at h
  obtain ⟨platform, -, h⟩ := exists_of_bind_eq_ok h
  obtain ⟨selfId, -, h⟩ := exists_of_bind_eq_ok h
  obtain ⟨userId, -, h⟩ := exists_of_bind_eq_ok h
  obtain ⟨channelId, -, h⟩ := exists_of_bind_eq_ok h
  obtain ⟨guildId, hguild, h⟩ := exists_of_bind_eq_ok h
  obtain ⟨content, -, h⟩ := exists_of_bind_eq_ok h
  obtain ⟨kind, -, h⟩ := exists_of_bind_eq_ok h
  obtain ⟨guild, rfl, hempty⟩ := text_eq_ok hguild
  cases h
  refine ⟨guild, rfl, hempty.trans ?_⟩
  rw [InGuild, not_and_or, not_not, not_not]

end Session

/-! ### The places where rules decide -/

/-- Where rules decide about a session. -/
inductive DecisionPoint where
  /-- A message comes in. -/
  | message
  /-- A command is to run, which belongs to a plugin or to none. -/
  | command (name : String) (owner : Option PluginOption)
  /-- The guard of a plugin asks. -/
  | plugin (key : String)

namespace DecisionPoint

/-- What is added to the attributes of the session. -/
def extras : DecisionPoint → Fields
  | message => []
  | command name owner => Site.commandVars name owner
  | plugin key => [("pluginKey", .str key)]

/-- The kind of the rules that are asked. -/
def kind : DecisionPoint → TargetKind
  | message => .everything
  | command .. => .commands
  | plugin _ => .plugins

/-- How the place is called in the trace. -/
def stage : DecisionPoint → String
  | message => "message"
  | command .. => "command"
  | plugin _ => "native-filter"

/-- The decision of rules about a session. -/
def decision (point : DecisionPoint) (rules : List Rule) (session : Session) :
    Except Fault Decision :=
  (session.varsWith point.extras).bind fun vars =>
    (Decision.forEvent rules vars point.kind point.stage).2

/-- No place adds a guild to the attributes. -/
theorem guildId_not_mem_extras (point : DecisionPoint) : "guildId" ∉ Table.keys point.extras := by
  cases point with
  | message => simp [extras]
  | command name owner => simp [extras, Site.commandVars]
  | plugin key => simp [extras]

/-- The attributes at every place tell whether the session has a guild. -/
theorem exists_guild {point : DecisionPoint} {session : Session} {vars : Fields}
    (h : session.varsWith point.extras = .ok vars) :
    ∃ guild, Table.get? vars "guildId" = some (.str guild) ∧ (guild = "" ↔ ¬ session.InGuild) := by
  rw [Session.varsWith] at h
  cases hvars : session.vars with
  | error fault =>
      rw [hvars] at h
      cases h
  | ok plain =>
      rw [hvars] at h
      cases h
      rw [Table.get?_overlay_of_not_mem point.guildId_not_mem_extras]
      exact Session.exists_guild hvars

end DecisionPoint

/-- The guard of a plugin lets a session through unless the decision is to block it. -/
theorem admits_snd (key : String) (rules : List Rule) (session : Session) :
    (admits key rules session).2 =
      ((DecisionPoint.plugin key).decision rules session).map Decision.isAllowed := by
  rw [admits, DecisionPoint.decision, DecisionPoint.extras]
  cases session.varsWith [("pluginKey", .str key)] with
  | error fault => rfl
  | ok vars => rfl

namespace Site

section Quiet

variable {s : Site} (hquiet : LogLevel.debug.passes s.threshold = false)

include hquiet

/-- Where the log takes no details, a decision is the one of the rules. -/
theorem decideEvent_quiet (vars : Fields) (kind : TargetKind) (stage : String)
    {incoming : TraceEvent} (hstage : TraceEvent.raisedStages.contains incoming.stage = false) :
    (s.decideEvent vars kind stage incoming).1 = (Decision.forEvent s.rules vars kind stage).2 := by
  rw [decideEvent_fst s vars kind stage hstage, hquiet]
  rfl

/-- The decision about a message. -/
theorem decideMessage_quiet (hloaded : s.engine.loaded = true) (session : Session) :
    (s.decideMessage session).1 = DecisionPoint.message.decision s.rules session := by
  rw [decideMessage, load_of_loaded hloaded, DecisionPoint.decision, Session.varsWith]
  cases session.vars with
  | error fault => rfl
  | ok vars => exact decideEvent_quiet hquiet vars _ _ rfl

/-- The decision about a command. -/
theorem decideCommand_quiet (hloaded : s.engine.loaded = true) (session : Session)
    (command : Option String) :
    (s.decideCommand session command).1 =
      (DecisionPoint.command (Resolver.nameOf s.host command)
        (s.engine.resolver.byCommand s.host command).1).decision s.rules session := by
  rw [decideCommand_fst hloaded, DecisionPoint.decision]
  congr 1
  funext vars
  exact decideEvent_quiet hquiet vars _ _ rfl

end Quiet

end Site

/-! ### Rules without a usable condition -/

namespace Rule

variable {r : Rule} {before after : List Rule} {point : DecisionPoint} {session : Session}

/-- With the attributes at hand, a decision is what comes of the rule that ends the search. -/
theorem decision_eq {vars : Fields} (hvars : session.varsWith point.extras = .ok vars)
    (rules : List Rule) : point.decision rules session =
      ((decisive? rules point.kind vars).map (outcome vars)).getD (.ok .allowed) := by
  rw [DecisionPoint.decision, hvars]
  exact Decision.forEvent_snd rules vars _ _

/-- The starting condition settles whatever has no guild, and nothing else. -/
theorem matchesEvent_of_starting (hcondition : r.condition = .starting) {vars : Fields}
    {guild : String} (hguild : Table.get? vars "guildId" = some (.str guild)) :
    r.matchesEvent vars = .ok (guild == "") := by
  rw [matchesEvent, hcondition, Expr.evaluate_starting hguild]

theorem decision_insert_of_not_inGuild (hcondition : r.condition = .starting) {vars : Fields}
    (hvars : session.varsWith point.extras = .ok vars) (hsession : ¬ session.InGuild)
    (happlies : r.applies point.kind vars = true)
    (hfirst : ¬ Forestalled before r after point.kind vars) :
    point.decision (before ++ r :: after) session = .ok (.ofRule r) := by
  obtain ⟨guild, hguild, hempty⟩ := DecisionPoint.exists_guild hvars
  have hmatches := matchesEvent_of_starting hcondition hguild
  rw [hempty.2 hsession] at hmatches
  have hdecides : r.decides point.kind vars = true := by
    rw [decides, happlies, settles, hmatches]
    rfl
  rw [decision_eq hvars, decisive?_insert_of_not_forestalled hdecides hfirst]
  simp [outcome, hmatches, Except.map]

theorem decision_insert_of_idle (hcondition : r.condition = .starting)
    (hidle : ∀ vars, session.varsWith point.extras = .ok vars → session.InGuild ∨
      r.applies point.kind vars = false ∨ Forestalled before r after point.kind vars) :
    point.decision (before ++ r :: after) session = point.decision (before ++ after) session := by
  cases hvars : session.varsWith point.extras with
  | error fault =>
      rw [DecisionPoint.decision, DecisionPoint.decision, hvars]
      rfl
  | ok vars =>
      rw [decision_eq hvars, decision_eq hvars]
      by_cases hdecides : r.decides point.kind vars = true
      · -- a rule that decides applies, and the session has no guild
        obtain ⟨guild, hguild, hempty⟩ := DecisionPoint.exists_guild hvars
        have hboth := Bool.and_eq_true_iff.1 hdecides
        have hsession : ¬ session.InGuild := by
          have hsettles := hboth.2
          rw [settles, matchesEvent_of_starting hcondition hguild] at hsettles
          exact hempty.1 (eq_of_beq hsettles)
        rcases hidle vars hvars with h | h | h
        · exact absurd h hsession
        · rw [hboth.1] at h
          cases h
        · rw [decisive?_insert_of_forestalled hdecides h]
      · rw [decisive?_insert_of_not_decides (Bool.eq_false_iff.2 hdecides)]

theorem condition_ofValue (data : Value) (supply : Supply) :
    (ofValue data supply).1.condition = .ofValue ((fieldsOf data).getD "condition") := by
  rw [ofValue, ofFields]
  split <;> rfl

/-- A rule that is made without a usable condition takes part in decisions as follows.  It decides
about a session without a guild, where it applies and where no rule that is asked before it ends
the search; it leaves all other decisions as they are. -/
theorem ofValue_unedited_decides (data : Value) (supply : Supply)
    (hdata : (Fields.getD (fieldsOf data) "condition").isCondition = false)
    (before after : List Rule) (point : DecisionPoint) (session : Session) :
    let r := (ofValue data supply).1
    (∀ vars, session.varsWith point.extras = .ok vars → ¬ session.InGuild →
      r.applies point.kind vars = true → ¬ Forestalled before r after point.kind vars →
        point.decision (before ++ r :: after) session = .ok (.ofRule r)) ∧
    ((∀ vars, session.varsWith point.extras = .ok vars → session.InGuild ∨
      r.applies point.kind vars = false ∨ Forestalled before r after point.kind vars) →
        point.decision (before ++ r :: after) session =
          point.decision (before ++ after) session) := by
  intro r
  have hcondition : r.condition = .starting :=
    (condition_ofValue data supply).trans (Expr.ofValue_of_not_isCondition hdata)
  exact ⟨fun vars hvars hsession happlies hfirst =>
      decision_insert_of_not_inGuild hcondition hvars hsession happlies hfirst,
    decision_insert_of_idle hcondition⟩

/-- A rule of which nothing but the id was given. -/
def namedOnly : Rule := (ofValue (.ofFields [("id", .str "new")]) (.counting 0 1)).1

/-- The attributes of a message in private. -/
def privateVars : Fields := (({} : Session).varsWith []).toOption.getD []

theorem ofValue_unedited_decides_private :
    (Fields.getD (fieldsOf (.ofFields [("id", .str "new")])) "condition").isCondition = false ∧
      ({} : Session).varsWith [] = .ok privateVars ∧ ¬ ({} : Session).InGuild ∧
      namedOnly.applies .everything privateVars = true ∧
      ¬ Forestalled [] namedOnly [] .everything privateVars ∧
      DecisionPoint.message.decision [namedOnly] {} = .ok ⟨.block, "", "new", "new-rule"⟩ := by
  have hsession : ¬ ({} : Session).InGuild := fun h => h.1 rfl
  have hfirst : ¬ Forestalled [] namedOnly [] .everything privateVars := by simp [Forestalled]
  have hunedited := ofValue_unedited_decides (.ofFields [("id", .str "new")]) (.counting 0 1) rfl
    [] [] .message {}
  exact ⟨rfl, rfl, hsession, rfl, hfirst, hunedited.1 privateVars rfl hsession rfl hfirst⟩

/-- Such a rule blocks a message in private that is allowed without it. -/
theorem namedOnly_blocks :
    (Fields.getD (fieldsOf (.ofFields [("id", .str "new")])) "condition").isCondition = false ∧
      DecisionPoint.message.decision [] {} = .ok ⟨.allow, "", "", ""⟩ ∧
      DecisionPoint.message.decision [namedOnly] {} = .ok ⟨.block, "", "new", "new-rule"⟩ := by
  refine ⟨rfl, ?_, ?_⟩
  · change (Decision.forEvent [] privateVars .everything "message").2 = _
    rw [Decision.forEvent, sort, List.mergeSort_nil]
    rfl
  · change (Decision.forEvent [namedOnly] privateVars .everything "message").2 = _
    rw [Decision.forEvent, sort, List.mergeSort_singleton]
    rfl

end Rule

end Admission
