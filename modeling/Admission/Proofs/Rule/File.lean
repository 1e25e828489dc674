import Admission.Proofs.Json.Value
import Admission.Proofs.Rule.Canonical
import Admission.Rule.File

/-!
# Rules come back from their file

A rule that was made from any value, and that compares with values JSON can keep, is written to the
rule file and read back as it was: with its id, at any depth of its condition, and with integers
still integers and doubles still doubles.  No id is drawn on the way, since none is missing.

Two facts meet here.  The text of a storable value is read as a copy of that value, and the mapping
of a rule is its own copy; and a rule that was made from a value is settled, so that making it again
from its mapping changes nothing.

Main definitions:

* `Rule.Made` — the rules that are made from values;
* `Rule.Storable` — the rules that the file can keep.

Main results:

* `Rule.toValue_isStorable` — the mapping of a storable rule is storable;
* `RuleFile.rulesOf_render` — **rules are read back as they were written**.
-/

set_option autoImplicit false

namespace Admission

/-! ### Copies of storable values -/

mutual

theorem Value.isStorable_copied : ∀ v : Value, v.isStorable = true → v.copied.isStorable = true
  | .null => id
  | .bool _ => id
  | .int _ => id
  | .float _ => id
  | .str _ => id
  | .list _ items => Value.areStorable_copied items
  | .mapping _ entries [] => by
      intro h
      rw [Value.isStorable, Bool.and_eq_true, Bool.and_eq_true] at h
      rw [Value.copied, Value.isStorable, Bool.and_eq_true, Bool.and_eq_true,
        Value.keys_copiedEntries]
      exact ⟨⟨h.1.1, Value.entriesStorable_copied entries h.1.2⟩, rfl⟩
  | .mapping _ _ (_ :: _) => by simp [Value.isStorable]
  | .tuple _ _ => fun h => absurd h Bool.false_ne_true
  | .object _ _ _ => fun h => absurd h Bool.false_ne_true
  | .expr _ => fun h => absurd h Bool.false_ne_true
  | .target _ => fun h => absurd h Bool.false_ne_true
  | .rule .. => fun h => absurd h Bool.false_ne_true

theorem Value.areStorable_copied : ∀ items : List Value,
    Value.areStorable items = true → Value.areStorable (Value.copiedItems items) = true
  | [] => id
  | v :: rest => by
      intro h
      rw [Value.areStorable, Bool.and_eq_true] at h
      rw [Value.copiedItems, Value.areStorable, Value.isStorable_copied v h.1,
        Value.areStorable_copied rest h.2, Bool.and_self]

theorem Value.entriesStorable_copied : ∀ entries : List (String × Value),
    Value.entriesStorable entries = true →
      Value.entriesStorable (Value.copiedEntries entries) = true
  | [] => id
  | (_, v) :: rest => by
      intro h
      rw [Value.entriesStorable, Bool.and_eq_true] at h
      rw [Value.copiedEntries, Value.entriesStorable, Value.isStorable_copied v h.1,
        Value.entriesStorable_copied rest h.2, Bool.and_self]

end

/-! ### Storable conditions -/

mutual

/-- JSON can keep every value that the condition compares with. -/
def Expr.isStorable : Expr → Bool
  | .group _ children => Expr.areStorable children
  | .negation child => child.isStorable
  | .compare _ _ value => value.isStorable

def Expr.areStorable : List Expr → Bool
  | [] => true
  | e :: rest => e.isStorable && Expr.areStorable rest

end

namespace Expr

mutual

/-- The mapping of a storable condition is storable. -/
theorem toValue_isStorable : ∀ e : Expr, e.isStorable = true → e.toValue.isStorable = true
  | .group operator children => by
      intro h
      have hchildren := toValues_areStorable children h
      simp [toValue, Value.isStorable, Value.entriesStorable, Table.keys, hchildren]
  | .negation child => by
      intro h
      have hchild := toValue_isStorable child h
      simp [toValue, Value.isStorable, Value.entriesStorable, Table.keys, hchild]
  | .compare field operator value => by
      intro h
      have hvalue := value.isStorable_copied h
      simp [toValue, Value.isStorable, Value.entriesStorable, Table.keys, hvalue]

theorem toValues_areStorable : ∀ children : List Expr,
    areStorable children = true → Value.areStorable (toValues children) = true
  | [] => id
  | e :: rest => by
      intro h
      rw [areStorable, Bool.and_eq_true] at h
      rw [toValues, Value.areStorable, toValue_isStorable e h.1, toValues_areStorable rest h.2,
        Bool.and_self]

end

mutual

/-- The mapping of a condition is its own copy. -/
theorem copied_toValue : ∀ e : Expr, e.toValue.copied = e.toValue
  | .group operator children => by
      simp only [toValue, Value.copied, Value.copiedEntries, Value.copiedOthers,
        copiedItems_toValues children]
  | .negation child => by
      simp only [toValue, Value.copied, Value.copiedEntries, Value.copiedOthers,
        copied_toValue child]
  | .compare field operator value => by
      simp only [toValue, Value.copied, Value.copiedEntries, Value.copiedOthers,
        Value.copied_copied]

theorem copiedItems_toValues : ∀ children : List Expr,
    Value.copiedItems (toValues children) = toValues children
  | [] => rfl
  | e :: rest => by
      rw [toValues, Value.copiedItems, copied_toValue e, copiedItems_toValues rest]

end

end Expr

/-! ### Storable rules -/

theorem Value.areStorable_texts (keys : List String) :
    Value.areStorable (keys.map .str) = true := by
  induction keys with
  | nil => rfl
  | cons key rest ih => rw [List.map_cons, Value.areStorable, Value.isStorable, ih, Bool.and_self]

theorem Value.copiedItems_texts (keys : List String) :
    Value.copiedItems (keys.map .str) = keys.map .str := by
  induction keys with
  | nil => rfl
  | cons key rest ih => rw [List.map_cons, Value.copiedItems, Value.copied, ih]

theorem Target.toValue_isStorable (t : Target) : t.toValue.isStorable = true := by
  cases t <;> simp [Target.toValue, Value.isStorable, Value.entriesStorable, Table.keys,
    Value.areStorable_texts]

theorem Target.copied_toValue (t : Target) : t.toValue.copied = t.toValue := by
  cases t <;> simp [Target.toValue, Value.copied, Value.copiedEntries, Value.copiedOthers,
    Value.copiedItems_texts]

namespace Rule

/-- The rule was made from a value. -/
def Made (r : Rule) : Prop := ∃ v supply, (ofValue v supply).1 = r

theorem Made.settled {r : Rule} (h : r.Made) : r.Settled := by
  obtain ⟨v, supply, rfl⟩ := h
  exact ofValue_settled v supply

/-- The rule file can keep the rule: its priority has few enough digits, and its condition compares
with storable values only. -/
structure Storable (r : Rule) : Prop where
  priority : Integer.isWritable r.priority = true
  condition : r.condition.isStorable = true

/-- The mapping of a storable rule is storable. -/
theorem toValue_isStorable {r : Rule} (h : r.Storable) : r.toValue.isStorable = true := by
  have hcondition := r.condition.toValue_isStorable h.condition
  simp [toValue, toFields, Value.isStorable, Value.entriesStorable, Table.keys, h.priority,
    r.target.toValue_isStorable, hcondition]

/-- The mapping of a rule is its own copy. -/
theorem copied_toValue (r : Rule) : r.toValue.copied = r.toValue := by
  simp only [toValue, toFields, Value.copied, Value.copiedEntries, Value.copiedOthers,
    r.target.copied_toValue, r.condition.copied_toValue]

theorem toValues_areStorable {rules : List Rule} (h : ∀ r ∈ rules, r.Storable) :
    Value.areStorable (rules.map toValue) = true := by
  induction rules with
  | nil => rfl
  | cons r rest ih =>
      rw [List.map_cons, Value.areStorable, toValue_isStorable (h r List.mem_cons_self),
        ih fun q hq => h q (List.mem_cons_of_mem r hq), Bool.and_self]

theorem copiedItems_toValue (rules : List Rule) :
    Value.copiedItems (rules.map toValue) = rules.map toValue := by
  induction rules with
  | nil => rfl
  | cons r rest ih => rw [List.map_cons, Value.copiedItems, copied_toValue, ih]

end Rule

/-! ### The file -/

namespace RuleFile

theorem fromUTF8?_toUTF8 (text : String) : String.fromUTF8? text.toUTF8 = some text :=
  dif_pos text.isValidUTF8

/-- The text of storable rules holds the mappings of these rules. -/
theorem contentOfText_render {rules : List Rule} (h : ∀ r ∈ rules, r.Storable) :
    ∃ text, render rules = .ok text ∧ contentOfText text = .items (rules.map Rule.toValue) := by
  obtain ⟨text, hrender, hread⟩ :=
    Json.read_render style (v := .ofList (rules.map Rule.toValue)) (Rule.toValues_areStorable h)
  refine ⟨text, hrender, ?_⟩
  rw [contentOfText, Json.read?, hread, Value.copied, Rule.copiedItems_toValue]
  rfl

/-- Rules that were made from values, and that the file can keep, have a text; and wherever a file
holds that text, exactly these rules are read from it, in order, and no id is drawn. -/
theorem rulesOf_render {rules : List Rule} (hmade : ∀ r ∈ rules, r.Made)
    (hstorable : ∀ r ∈ rules, r.Storable) :
    ∃ text, render rules = .ok text ∧
      ∀ (t : FileTree) (path : Path), t.read path.components = .ok text.toUTF8 →
        ∀ supply : Supply, rulesOf (content t path) supply = (some rules, supply) := by
  obtain ⟨text, hrender, hcontent⟩ := contentOfText_render hstorable
  refine ⟨text, hrender, ?_⟩
  intro t path hfile supply
  have hback := Rule.ofValues_toValue_of_settled (fun r hr => (hmade r hr).settled) supply
  have hitems : content t path = .items (rules.map Rule.toValue) := by
    rw [content, hfile]
    simp only [contentOfBytes, fromUTF8?_toUTF8, hcontent]
  rw [hitems, rulesOf, hback]

/-- What a rule may compare with: nested and empty containers, an integer and a double of the same
number, a double in exponent form, and a text with quotes, a control character and letters beyond
ASCII. -/
def oddity : Value :=
  .ofFields [("", .ofList []), ("b", .ofFields []), ("a", .ofList [.null, .bool true, .int (-7)]),
    ("one", .ofList [.int 1, .float (.finite false ⟨4607182418800017408, by decide⟩)]),
    ("tiny", .float (.finite true ⟨4508321993853365645, by decide⟩)),
    ("say", .str "\"né\\\n\x01\x1f 😀\"")]

/-- A rule under an id of its own that compares with oddities, and a rule of which nothing is given
but keys to be cleaned. -/
def oddRules : List Rule :=
  [(Rule.ofValue (.ofFields [("id", .str "z"), ("priority", .int (-3)),
      ("condition", .ofFields [("type", .str "not"), ("child", .ofFields
        [("type", .str "compare"), ("operator", .str "in"), ("value", oddity)])])])
      (Supply.counting 0 1)).1,
   (Rule.ofValue (.ofFields [("target", .ofFields [("type", .str "plugin"),
      ("value", .ofList [.str " echo ", .str "", .str "echo"])])]) (Supply.counting 5 1)).1]

theorem rulesOf_render_oddRules :
    (∀ r ∈ oddRules, r.Made) ∧ (∀ r ∈ oddRules, r.Storable) ∧
      ∃ text, render oddRules = .ok text ∧
        ∀ (t : FileTree) (path : Path), t.read path.components = .ok text.toUTF8 →
          ∀ supply : Supply, rulesOf (content t path) supply = (some oddRules, supply) := by
  have hmade : ∀ r ∈ oddRules, r.Made := by
    intro r hr
    simp only [oddRules, List.mem_cons, List.not_mem_nil, or_false] at hr
    rcases hr with rfl | rfl
    · exact ⟨_, _, rfl⟩
    · exact ⟨_, _, rfl⟩
  have hstorable : ∀ r ∈ oddRules, r.Storable := by
    intro r hr
    simp only [oddRules, List.mem_cons, List.not_mem_nil, or_false] at hr
    rcases hr with rfl | rfl
    · exact ⟨by decide +kernel, by decide +kernel⟩
    · exact ⟨by decide +kernel, by decide +kernel⟩
  exact ⟨hmade, hstorable, rulesOf_render hmade hstorable⟩

end RuleFile

end Admission
