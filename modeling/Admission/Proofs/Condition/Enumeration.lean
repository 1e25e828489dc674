import Admission.Condition.Compare
import Admission.Proofs.Text.Split
import Admission.Proofs.Text.Trim

/-!
# Texts that enumerate

Where a comparison takes several values, they may be written as one text with commas between them.
Either comma will do, blanks around the entries do not count, and neither do places without an
entry.  A text written so is taken for its entries, and every text is written so: it enumerates the
entries between its commas, and no others.

A comparison that asks for several values looks at its right side only through these values.  It has
the same outcome for the text as for the list of its entries, whatever the left side is, as long as
there are at least two entries; a text with fewer entries stays the one value that it is.

Main definitions:

* `Enumeration.IsEntry` — what can stand between commas as it is;
* `Enumeration.Place` — an entry with blanks around it, or blanks alone;
* `Enumeration.Enumerates` — places with commas between them.

Main results:

* `Enumeration.commaParts_eq_iff` — the parts of a text are the entries that it enumerates;
* `Comparison.namedHolds_congr` — comparisons look at the values that the right side lists;
* `Enumeration.alternatives_eq_entries` — **a text that enumerates entries is compared as the list
  of these entries**.
-/

set_option autoImplicit false

namespace Admission

namespace Enumeration

open Value (isComma commaParts)

/-- A text that can stand between commas as it is: it is not empty, has no comma, and has no blank
at its ends. -/
structure IsEntry (entry : String) : Prop where
  nonempty : entry ≠ ""
  commaless : ∀ c ∈ entry.toList, c ≠ ',' ∧ c ≠ '，'
  first : ∀ c ∈ entry.toList.head?, Text.isBlank c = false
  last : ∀ c ∈ entry.toList.getLast?, Text.isBlank c = false

/-- What stands between two commas: an entry with blanks around it, or blanks alone. -/
inductive Place : Option String → List Char → Prop where
  | vacant {blanks : List Char} (hblanks : ∀ c ∈ blanks, Text.isBlank c = true) :
      Place none blanks
  | taken {before after : List Char} (entry : String)
      (hbefore : ∀ c ∈ before, Text.isBlank c = true)
      (hafter : ∀ c ∈ after, Text.isBlank c = true) :
      Place (some entry) (before ++ entry.toList ++ after)

/-- The characters enumerate the entries: they are places with commas between them, and the entries
in these places are the given ones in order. -/
inductive Enumerates : List String → List Char → Prop where
  | last {entry : Option String} {place : List Char} (hplace : Place entry place) :
      Enumerates entry.toList place
  | next {entry : Option String} {place rest : List Char} {comma : Char} {entries : List String}
      (hplace : Place entry place) (hcomma : comma = ',' ∨ comma = '，')
      (hrest : Enumerates entries rest) :
      Enumerates (entry.toList ++ entries) (place ++ comma :: rest)

/-! ### The parts of an enumeration -/

theorem isComma_eq_true_iff {c : Char} : isComma c = true ↔ c = ',' ∨ c = '，' := by
  simp [isComma]

theorem isComma_eq_false_iff {c : Char} : isComma c = false ↔ c ≠ ',' ∧ c ≠ '，' := by
  simp [isComma]

/-- A blank is no comma. -/
theorem isComma_of_isBlank {c : Char} (h : Text.isBlank c = true) : isComma c = false := by
  rw [isComma_eq_false_iff]
  constructor <;> rintro rfl <;> exact absurd h (by decide)

/-- The trimmed parts of characters between commas that are not empty. -/
def parts (text : List Char) : List String :=
  ((Text.splitBy isComma text).map fun part =>
    String.ofList (Text.trimBy Text.isBlank part)).filter (· != "")

theorem commaParts_eq_parts (text : String) : commaParts text = parts text.toList := rfl

theorem parts_append_comma {comma : Char} (hcomma : comma = ',' ∨ comma = '，')
    (before after : List Char) :
    parts (before ++ comma :: after) = parts before ++ parts after := by
  rw [parts, Text.splitBy_append_cons (isComma_eq_true_iff.2 hcomma), List.map_append,
    List.filter_append]
  rfl

theorem parts_of_commaless {text : List Char} (h : ∀ c ∈ text, isComma c = false) :
    parts text = [String.ofList (Text.trimBy Text.isBlank text)].filter (· != "") := by
  rw [parts, Text.splitBy_of_forall h]
  rfl

namespace Place

variable {entry : Option String} {place : List Char}

theorem commaless (h : Place entry place) (hentry : ∀ e ∈ entry, IsEntry e) :
    ∀ c ∈ place, isComma c = false := by
  cases h with
  | vacant hblanks => exact fun c hc => isComma_of_isBlank (hblanks c hc)
  | taken entry hbefore hafter =>
      intro c hc
      rcases List.mem_append.1 hc with hfront | hback
      · rcases List.mem_append.1 hfront with hblank | hinside
        · exact isComma_of_isBlank (hbefore c hblank)
        · exact isComma_eq_false_iff.2 ((hentry entry rfl).commaless c hinside)
      · exact isComma_of_isBlank (hafter c hback)

/-- A place has its entry for a part. -/
theorem parts_eq (h : Place entry place) (hentry : ∀ e ∈ entry, IsEntry e) :
    parts place = entry.toList := by
  rw [parts_of_commaless (h.commaless hentry)]
  cases h with
  | vacant hblanks =>
      have htrimmed : Text.trimBy Text.isBlank (place ++ [] ++ []) = [] :=
        Text.trimBy_append_append hblanks (by simp) []
      rw [List.append_nil, List.append_nil] at htrimmed
      rw [htrimmed]
      rfl
  | taken entry hbefore hafter =>
      have hentry := hentry entry rfl
      rw [Text.trimBy_append_append hbefore hafter,
        Text.trimBy_eq_self_iff.2 ⟨hentry.first, hentry.last⟩, String.ofList_toList]
      simp [hentry.nonempty]

end Place

/-- An enumeration has its entries for parts. -/
theorem Enumerates.parts_eq {entries : List String} {text : List Char}
    (h : Enumerates entries text) (hentries : ∀ e ∈ entries, IsEntry e) :
    parts text = entries := by
  induction h with
  | last hplace => exact hplace.parts_eq fun e he => hentries e (by simpa using he)
  | next hplace hcomma _ ih =>
      rw [parts_append_comma hcomma,
        hplace.parts_eq fun e he => hentries e (List.mem_append_left _ (by simpa using he)),
        ih fun e he => hentries e (List.mem_append_right _ he)]

/-! ### Every text enumerates something -/

/-- Characters without a comma are a place. -/
theorem exists_place {text : List Char} (h : ∀ c ∈ text, isComma c = false) :
    ∃ entry : Option String, (∀ e ∈ entry, IsEntry e) ∧ Place entry text := by
  obtain ⟨before, after, hbefore, hafter, htext⟩ :=
    Text.exists_append_trimBy_append Text.isBlank text
  by_cases hempty : Text.trimBy Text.isBlank text = []
  · refine ⟨none, by simp, .vacant ?_⟩
    rw [htext, hempty, List.append_nil]
    exact fun c hc => (List.mem_append.1 hc).elim (hbefore c) (hafter c)
  · have hends := Text.trimBy_eq_self_iff.1 (Text.trimBy_trimBy Text.isBlank text)
    have hinside : ∀ c ∈ Text.trimBy Text.isBlank text, isComma c = false := by
      intro c hc
      refine h c ?_
      rw [htext]
      exact List.mem_append_left _ (List.mem_append_right _ hc)
    have hplace := Place.taken (String.ofList (Text.trimBy Text.isBlank text)) hbefore hafter
    rw [String.toList_ofList, ← htext] at hplace
    refine ⟨_, ?_, hplace⟩
    rintro e ⟨⟩
    exact {
      nonempty := by simpa using hempty
      commaless := by
        simpa only [String.toList_ofList, isComma_eq_false_iff] using hinside
      first := by simpa only [String.toList_ofList] using hends.1
      last := by simpa only [String.toList_ofList] using hends.2 }

/-- What was read since the last comma waits in front of the rest. -/
theorem exists_enumerates_append (text : List Char) :
    ∀ read : List Char, (∀ c ∈ read, isComma c = false) →
      ∃ entries, (∀ e ∈ entries, IsEntry e) ∧ Enumerates entries (read ++ text) := by
  induction text with
  | nil =>
      intro read hread
      obtain ⟨entry, hentry, hplace⟩ := exists_place hread
      rw [List.append_nil]
      exact ⟨entry.toList, by simpa using hentry, .last hplace⟩
  | cons c rest ih =>
      intro read hread
      cases hc : isComma c with
      | true =>
          obtain ⟨entry, hentry, hplace⟩ := exists_place hread
          obtain ⟨entries, hentries, hrest⟩ := ih [] (by simp)
          refine ⟨entry.toList ++ entries, ?_, .next hplace (isComma_eq_true_iff.1 hc) hrest⟩
          intro e he
          rcases List.mem_append.1 he with hfirst | hlater
          · exact hentry e (by simpa using hfirst)
          · exact hentries e hlater
      | false =>
          have hread' : ∀ d ∈ read ++ [c], isComma d = false := by
            intro d hd
            rcases List.mem_append.1 hd with hbefore | hlast
            · exact hread d hbefore
            · rw [List.mem_singleton.1 hlast, hc]
          -- no comma: the character belongs to the part that is being read
          have h := ih (read ++ [c]) hread'
          rwa [List.append_assoc, List.singleton_append] at h

/-- The parts of a text are the entries that it enumerates. -/
theorem commaParts_eq_iff {text : String} {entries : List String} :
    commaParts text = entries ↔
      (∀ e ∈ entries, IsEntry e) ∧ Enumerates entries text.toList := by
  rw [commaParts_eq_parts]
  constructor
  · rintro rfl
    obtain ⟨entries, hentries, h⟩ := exists_enumerates_append text.toList [] (by simp)
    rw [List.nil_append] at h
    rw [h.parts_eq hentries]
    exact ⟨hentries, h⟩
  · rintro ⟨hentries, h⟩
    exact h.parts_eq hentries

end Enumeration

/-! ### Comparing with what is listed -/

namespace Comparison

theorem name_of_ofName? {operator : String} {op : Comparison} (h : ofName? operator = some op) :
    op.name = operator := by
  simpa using List.find?_some h

/-- Every operator but those for equality looks at its right side through the values that this
lists. -/
theorem holdsFor_congr {op : Comparison} {right right' : Value} (hequal : op ≠ .equal)
    (hnotEqual : op ≠ .notEqual) (h : right.alternatives = right'.alternatives) (left : Value) :
    op.holdsFor left right = op.holdsFor left right' := by
  cases op with
  | equal => exact absurd rfl hequal
  | notEqual => exact absurd rfl hnotEqual
  | member | notMember | includes | notIncludes | pattern | greater | atLeast | less | atMost
  | present => simp only [holdsFor, h]

theorem namedHolds_congr {operator : String} {right right' : Value} (hequal : operator ≠ "eq")
    (hnotEqual : operator ≠ "ne") (h : right.alternatives = right'.alternatives)
    (left : Option Value) : namedHolds operator left right = namedHolds operator left right' := by
  rw [namedHolds, namedHolds]
  cases hop : ofName? operator with
  | none => rfl
  | some op =>
      have hname := name_of_ofName? hop
      cases left with
      | none => rfl
      | some left =>
          refine holdsFor_congr ?_ ?_ h left
          · rintro rfl
            exact hequal hname.symm
          · rintro rfl
            exact hnotEqual hname.symm

end Comparison

namespace Enumeration

/-- A text that enumerates at least two entries lists exactly these entries, in order.  Hence every
operator but those for equality compares whatever may be on the left with the text as with the list
of the entries; this includes an attribute that is missing, and it includes how the comparison stops
if it does. -/
theorem alternatives_eq_entries {entries : List String} {text : String}
    (hentries : ∀ e ∈ entries, IsEntry e) (hseveral : 2 ≤ entries.length)
    (h : Enumerates entries text.toList) :
    (Value.str text).alternatives = entries.map .str ∧
      ∀ operator : String, operator ≠ "eq" → operator ≠ "ne" →
        ∀ (left : Option Value) (origin : Option Nat),
          Comparison.namedHolds operator left (.str text) =
            Comparison.namedHolds operator left (.list origin (entries.map .str)) := by
  have hlisted : (Value.str text).alternatives = entries.map .str := by
    rw [Value.alternatives, commaParts_eq_iff.2 ⟨hentries, h⟩, if_pos (by omega)]
  exact ⟨hlisted, fun operator hequal hnotEqual left origin =>
    Comparison.namedHolds_congr hequal hnotEqual hlisted left⟩

/-- Both commas, places without an entry, and blanks around and within the entries. -/
theorem alternatives_eq_entries_mixed :
    (∀ e ∈ ["a b", "c"], IsEntry e) ∧ Enumerates ["a b", "c"] " a b ,，\tc ,".toList ∧
      (Value.str " a b ,，\tc ,").alternatives = ["a b", "c"].map .str ∧
      ∀ (left : Option Value) (origin : Option Nat),
        Comparison.namedHolds "in" left (.str " a b ,，\tc ,") =
          Comparison.namedHolds "in" left (.list origin (["a b", "c"].map .str)) := by
  obtain ⟨hentries, h⟩ :=
    commaParts_eq_iff.1 (show Value.commaParts " a b ,，\tc ," = ["a b", "c"] by decide +kernel)
  obtain ⟨hlisted, hcompare⟩ := alternatives_eq_entries hentries (by decide) h
  exact ⟨hentries, h, hlisted, hcompare "in" (by decide) (by decide)⟩

end Enumeration

end Admission
