import Admission.Proofs.Json.Number
import Admission.Proofs.Json.Text
import Admission.Proofs.Table

/-!
# JSON values are read back

A value that is built from null, booleans, writable integers, doubles, texts, lists and mappings
with different keys is *storable*: it has a JSON text in every style, on one line or indented, and
that text is read as a copy of the value.

The relation `Json.Reads` says of characters that they are read as a value whatever comes after
them, as long as it does not continue a number.  It is stable under the brackets, separators and
line breaks of containers, so one induction over values is enough.

Main definitions:

* `Value.isStorable` — the values that JSON can keep;
* `Json.Reads` — characters are read as a value.

Main results:

* `Json.reads_list`, `Json.reads_mapping` — containers of what is read back are read back;
* `Json.write_reads` — **every storable value is written, and is read back as its copy**;
* `Json.read_render` — **the text of a storable value is read as its copy**.
-/

set_option autoImplicit false

namespace Admission

/-! ### Storable values -/

mutual

/-- JSON can keep the value: no part of it is refused or changed by writing. -/
def Value.isStorable : Value → Bool
  | .null => true
  | .bool _ => true
  | .int i => Integer.isWritable i
  | .float _ => true
  | .str _ => true
  | .list _ items => Value.areStorable items
  | .mapping _ entries others =>
    decide (Table.keys entries).Nodup && Value.entriesStorable entries && others.isEmpty
  | .tuple _ _ => false
  | .object _ _ _ => false
  | .expr _ => false
  | .target _ => false
  | .rule .. => false

def Value.areStorable : List Value → Bool
  | [] => true
  | v :: rest => v.isStorable && Value.areStorable rest

def Value.entriesStorable : List (String × Value) → Bool
  | [] => true
  | (_, v) :: rest => v.isStorable && Value.entriesStorable rest

end

theorem Value.keys_copiedEntries (entries : Fields) :
    Table.keys (Value.copiedEntries entries) = Table.keys entries := by
  induction entries with
  | nil => rfl
  | cons e rest ih => rw [Value.copiedEntries, Table.keys_cons, Table.keys_cons, ih]

namespace Json

/-! ### Blanks -/

theorem skip_blanks {blanks rest : List Char} (h : ∀ c ∈ blanks, isBlank c = true) {c : Char}
    (hc : isBlank c = false) : skip (blanks ++ c :: rest) = c :: rest := by
  rw [skip, List.dropWhile_append_of_pos h]
  simp [hc]

theorem isBlank_lineBreak (style : Style) (depth : Nat) :
    ∀ c ∈ lineBreak style depth, isBlank c = true := by
  unfold lineBreak
  split
  · simp
  · intro c hc
    rcases List.mem_cons.1 hc with rfl | hc
    · rfl
    · rw [List.eq_of_mem_replicate hc]
      rfl

theorem isBlank_space : ∀ c ∈ [' '], isBlank c = true := by
  intro c hc
  rw [List.mem_singleton.1 hc]
  rfl

/-- A separator is a comma and blanks. -/
theorem separator_eq (style : Style) (depth : Nat) :
    ∃ blanks, separator style depth = ',' :: blanks ∧ ∀ c ∈ blanks, isBlank c = true := by
  unfold separator
  split
  · exact ⟨[' '], rfl, isBlank_space⟩
  · exact ⟨_, rfl, isBlank_lineBreak style depth⟩

theorem delimited_nil : Delimited [] := by simp [Delimited]

/-- Whatever stands behind a value begins with a blank, a comma or a closing bracket. -/
theorem delimited_cons {c : Char} (rest : List Char)
    (hc : isBlank c = true ∨ c = ',' ∨ c = ']' ∨ c = '}') : Delimited (c :: rest) := by
  have hchar : c.isDigit = false ∧ c ≠ '.' ∧ c ≠ 'e' ∧ c ≠ 'E' := by
    simp only [isBlank, Bool.or_eq_true, beq_iff_eq] at hc
    rcases hc with (((rfl | rfl) | rfl) | rfl) | rfl | rfl | rfl <;> decide
  intro d hd
  rw [List.head?_cons, Option.mem_some] at hd
  exact hd ▸ hchar

theorem delimited_blanks {blanks rest : List Char} (h : ∀ c ∈ blanks, isBlank c = true)
    (hrest : Delimited rest) : Delimited (blanks ++ rest) := by
  cases blanks with
  | nil => exact hrest
  | cons c blanks => exact delimited_cons _ (.inl (h c List.mem_cons_self))

/-! ### Characters that are read as a value -/

/-- The characters begin with something that neither a blank nor a closing bracket is. -/
def Opens (cs : List Char) : Prop :=
  ∃ c rest, cs = c :: rest ∧ isBlank c = false ∧ c ≠ ']' ∧ c ≠ '}'

/-- The characters are read as the value, whatever comes after them. -/
structure Reads (v : Value) (cs : List Char) : Prop where
  opens : Opens cs
  read : ∀ {fuel : Nat} {rest : List Char}, cs.length < fuel → Delimited rest →
    readValue fuel (cs ++ rest) = .ok (v, rest)

/-- What opens neither a text nor a container is left to the scalars. -/
theorem readValue_scalar {c : Char} (hc : c ≠ '"' ∧ c ≠ '[' ∧ c ≠ '{') (fuel : Nat)
    (cs : List Char) : readValue (fuel + 1) (c :: cs) = readScalar (c :: cs) := by
  obtain ⟨hquote, hlist, hmapping⟩ := hc
  rw [readValue]
  all_goals simp_all

theorem Reads.of_scalar {v : Value} {c : Char} {cs : List Char}
    (hc : c ≠ '"' ∧ c ≠ '[' ∧ c ≠ '{') (hblank : isBlank c = false)
    (hclose : c ≠ ']' ∧ c ≠ '}')
    (h : ∀ {rest : List Char}, Delimited rest → readScalar (c :: cs ++ rest) = .ok (v, rest)) :
    Reads v (c :: cs) where
  opens := ⟨c, cs, rfl, hblank, hclose⟩
  read := by
    intro fuel rest hfuel hrest
    obtain ⟨fuel, rfl⟩ := Nat.exists_eq_succ_of_ne_zero (Nat.ne_of_gt (Nat.zero_lt_of_lt hfuel))
    rw [List.cons_append, readValue_scalar hc, ← List.cons_append, h hrest]

/-! ### Scalars -/

theorem reads_null : Reads .null "null".toList :=
  .of_scalar (by decide) (by decide) (by decide) fun _ => rfl

theorem reads_bool (b : Bool) : Reads (.bool b) (if b then "true".toList else "false".toList) := by
  cases b with
  | true => exact .of_scalar (by decide) (by decide) (by decide) fun _ => rfl
  | false => exact .of_scalar (by decide) (by decide) (by decide) fun _ => rfl

/-- A sign or a digit opens a number. -/
theorem reads_signed {v : Value} {negative : Bool} {c : Char} {cs : List Char}
    (hc : c.isDigit = true)
    (h : ∀ {rest : List Char}, Delimited rest →
      readScalar (signText negative ++ c :: cs ++ rest) = .ok (v, rest)) :
    Reads v (signText negative ++ c :: cs) := by
  have hne : ∀ x : Char, x.isDigit = false → c ≠ x := by
    rintro x hx rfl
    rw [hx] at hc
    cases hc
  cases negative with
  | true => exact .of_scalar (by decide) (by decide) (by decide) h
  | false =>
      refine .of_scalar ?_ ?_ ⟨hne ']' (by decide), hne '}' (by decide)⟩ h
      · exact ⟨hne '"' (by decide), hne '[' (by decide), hne '{' (by decide)⟩
      · simp [isBlank, hne ' ' (by decide), hne '\t' (by decide), hne '\n' (by decide),
          hne '\r' (by decide)]

theorem reads_int {i : Int} (hi : Integer.isWritable i = true) :
    Reads (.int i) (Integer.decimal i).toList := by
  obtain ⟨c, cs, hcons, hc⟩ := (whole_toDigits i.natAbs).exists_cons
  have htext : (Integer.decimal i).toList = signText (decide (i < 0)) ++ c :: cs := by
    rw [← hcons, toList_decimal]
  rw [htext]
  refine reads_signed hc fun hrest => ?_
  rw [← htext]
  exact readScalar_int hi hrest

theorem reads_float (d : Double) : Reads (.float d) (d.text spelling).toList := by
  cases d with
  | finite negative rank =>
      obtain ⟨d, hspells, _⟩ := exists_spells rank
      obtain ⟨c, cs, hcons, hc⟩ := hspells.exists_cons
      rw [toList_finite, hcons]
      refine reads_signed hc fun hrest => ?_
      rw [← hcons, ← toList_finite spelling]
      exact readScalar_finite spelling negative rank hrest
  | infinite negative =>
      cases negative with
      | true => exact .of_scalar (by decide) (by decide) (by decide) fun _ => rfl
      | false => exact .of_scalar (by decide) (by decide) (by decide) fun _ => rfl
  | nan => exact .of_scalar (by decide) (by decide) (by decide) fun _ => rfl

theorem reads_str (ascii : Bool) (s : String) : Reads (.str s) (textLiteral ascii s) := by
  obtain ⟨body, hliteral, hread⟩ := readText_literal ascii s
  rw [hliteral]
  refine ⟨⟨'"', body, rfl, by decide, by decide, by decide⟩, ?_⟩
  intro fuel rest hfuel _
  obtain ⟨fuel, rfl⟩ := Nat.exists_eq_succ_of_ne_zero (Nat.ne_of_gt (Nat.zero_lt_of_lt hfuel))
  rw [List.cons_append, readValue, hread, become_ok, String.ofList_toList]

/-! ### Items -/

/-- Blanks in front of something that opens a value are skipped. -/
theorem skip_opens {blanks cs : List Char} (h : ∀ c ∈ blanks, isBlank c = true) (hcs : Opens cs)
    (rest : List Char) : skip (blanks ++ (cs ++ rest)) = cs ++ rest := by
  obtain ⟨c, tail, rfl, hc, _⟩ := hcs
  exact skip_blanks h hc

theorem skip_solid {c : Char} (hc : isBlank c = false) (rest : List Char) :
    skip (c :: rest) = c :: rest :=
  skip_blanks (by simp : ∀ c ∈ ([] : List Char), isBlank c = true) hc

def joined (style : Style) (depth : Nat) (text : List Char) (texts : List (List Char)) :
    List Char :=
  List.intercalate (separator style depth) (text :: texts)

theorem joined_nil (style : Style) (depth : Nat) (text : List Char) :
    joined style depth text [] = text := by
  simp [joined, List.intercalate]

theorem joined_cons (style : Style) (depth : Nat) (text next : List Char)
    (texts : List (List Char)) :
    joined style depth text (next :: texts) =
      text ++ (separator style depth ++ joined style depth next texts) := by
  simp [joined, List.intercalate]

theorem opens_joined {text : List Char} (h : Opens text) (style : Style) (depth : Nat)
    (texts : List (List Char)) : Opens (joined style depth text texts) := by
  obtain ⟨c, tail, rfl, hc⟩ := h
  cases texts with
  | nil => exact ⟨c, tail, joined_nil style depth _, hc⟩
  | cons next texts => exact ⟨c, _, joined_cons style depth _ next texts, hc⟩

section Loops

variable {style : Style} {depth : Nat}

/-- A loop that reads one text at a time reads texts that are joined, when it stops behind the
last of them and goes on behind the others. -/
theorem loop_joined {α : Type} {R : α → List Char → Prop}
    {loop : Nat → List Char → Reading (List α)} {stop rest : List Char}
    (hopens : ∀ {a : α} {text : List Char}, R a text → Opens text)
    (hlast : ∀ {a : α} {text : List Char} {fuel : Nat}, R a text → text.length < fuel →
      loop (fuel + 1) (text ++ stop) = .ok ([a], rest))
    (hnext : ∀ {a : α} {text more : List Char} {fuel : Nat}, R a text → Opens more →
      text.length < fuel →
      loop (fuel + 1) (text ++ (separator style depth ++ (more ++ stop))) =
        (loop fuel (more ++ stop)).become (a :: ·))
    {as : List α} {texts : List (List Char)} (hs : List.Forall₂ R as texts) :
    ∀ {a : α} {text : List Char}, R a text → ∀ {fuel : Nat},
      (joined style depth text texts).length < fuel →
      loop (fuel + 1) (joined style depth text texts ++ stop) = .ok (a :: as, rest) := by
  induction hs with
  | nil =>
      intro a text h fuel hfuel
      rw [joined_nil] at hfuel ⊢
      exact hlast h hfuel
  | @cons b next as texts hb _ ih =>
      intro a text h fuel hfuel
      rw [joined_cons, List.length_append, List.length_append] at hfuel
      obtain ⟨fuel, rfl⟩ := Nat.exists_eq_succ_of_ne_zero (Nat.ne_of_gt (Nat.zero_lt_of_lt hfuel))
      have hlength : 1 ≤ (separator style depth).length := by
        obtain ⟨gap, hsep, _⟩ := separator_eq style depth
        simp [hsep]
      rw [joined_cons, List.append_assoc, List.append_assoc,
        hnext h (opens_joined (hopens hb) style depth texts) (by omega), ih hb (by omega),
        become_ok]

/-- What stands behind an item decides whether there are more. -/
theorem readItems_item {v : Value} {text rest : List Char} {fuel : Nat} (h : Reads v text)
    (hfuel : text.length < fuel) (hrest : Delimited rest) :
    (∀ r, skip rest = ',' :: r →
      readItems (fuel + 1) (text ++ rest) = (readItems fuel (skip r)).become (v :: ·)) ∧
    (∀ r, skip rest = ']' :: r → readItems (fuel + 1) (text ++ rest) = .ok ([v], r)) := by
  constructor
  · intro r hnext
    simp only [readItems, h.read hfuel hrest, hnext]
  · intro r hnext
    simp only [readItems, h.read hfuel hrest, hnext]

/-- Items that are written one after the other are read up to the closing bracket. -/
theorem readItems_joined {blanks rest : List Char} (hblanks : ∀ c ∈ blanks, isBlank c = true)
    {v : Value} {vs : List Value} {text : List Char} {texts : List (List Char)} {fuel : Nat}
    (h : Reads v text) (hs : List.Forall₂ Reads vs texts)
    (hfuel : (joined style depth text texts).length < fuel) :
    readItems (fuel + 1) (joined style depth text texts ++ (blanks ++ ']' :: rest)) =
      .ok (v :: vs, rest) := by
  have hstop : Delimited (blanks ++ ']' :: rest) :=
    delimited_blanks hblanks (delimited_cons rest (.inr (.inr (.inl rfl))))
  obtain ⟨gap, hsep, hgap⟩ := separator_eq style depth
  refine loop_joined Reads.opens ?_ ?_ hs h hfuel
  · intro v text fuel h hfuel
    have hend : skip (blanks ++ ']' :: rest) = ']' :: rest := skip_blanks hblanks (by decide)
    exact (readItems_item h hfuel hstop).2 rest hend
  · intro v text more fuel h hmore hfuel
    rw [hsep, List.cons_append]
    have hcomma : Delimited (',' :: (gap ++ (more ++ (blanks ++ ']' :: rest)))) :=
      delimited_cons _ (.inr (.inl rfl))
    rw [(readItems_item h hfuel hcomma).1 _ (skip_solid (by decide) _), skip_opens hgap hmore]

/-- The characters are a key, a colon and what is read as the value of the entry. -/
def ReadsEntry (ascii : Bool) (entry : String × Value) (cs : List Char) : Prop :=
  ∃ text, cs = textLiteral ascii entry.1 ++ ':' :: ' ' :: text ∧ Reads entry.2 text

theorem ReadsEntry.opens {ascii : Bool} {entry : String × Value} {cs : List Char}
    (h : ReadsEntry ascii entry cs) : Opens cs := by
  obtain ⟨text, rfl, _⟩ := h
  exact ⟨'"', _, rfl, by decide, by decide, by decide⟩

/-- What stands behind an entry decides whether there are more. -/
theorem readEntries_entry {ascii : Bool} {entry : String × Value} {text rest : List Char}
    {fuel : Nat} (h : ReadsEntry ascii entry text) (hfuel : text.length < fuel)
    (hrest : Delimited rest) :
    (∀ r, skip rest = ',' :: r →
      readEntries (fuel + 1) (text ++ rest) = (readEntries fuel (skip r)).become (entry :: ·)) ∧
    (∀ r, skip rest = '}' :: r → readEntries (fuel + 1) (text ++ rest) = .ok ([entry], r)) := by
  obtain ⟨value, rfl, hvalue⟩ := h
  obtain ⟨body, hliteral, hkey⟩ := readText_literal ascii entry.1
  have hlength : value.length < fuel := by
    simp only [List.length_append, List.length_cons] at hfuel
    omega
  have hcolon : skip (':' :: ' ' :: (value ++ rest)) = ':' :: ' ' :: (value ++ rest) :=
    skip_solid (by decide) _
  have hskip : skip (' ' :: (value ++ rest)) = value ++ rest :=
    skip_opens isBlank_space hvalue.opens rest
  rw [hliteral]
  simp only [List.append_assoc, List.cons_append]
  constructor
  · intro r hnext
    simp only [readEntries, hkey, hcolon, hskip, hvalue.read hlength hrest, hnext,
      String.ofList_toList]
  · intro r hnext
    simp only [readEntries, hkey, hcolon, hskip, hvalue.read hlength hrest, hnext,
      String.ofList_toList]

/-- Entries that are written one after the other are read up to the closing brace. -/
theorem readEntries_joined {ascii : Bool} {blanks rest : List Char}
    (hblanks : ∀ c ∈ blanks, isBlank c = true) {entry : String × Value} {entries : Fields}
    {text : List Char} {texts : List (List Char)} {fuel : Nat} (h : ReadsEntry ascii entry text)
    (hs : List.Forall₂ (ReadsEntry ascii) entries texts)
    (hfuel : (joined style depth text texts).length < fuel) :
    readEntries (fuel + 1) (joined style depth text texts ++ (blanks ++ '}' :: rest)) =
      .ok (entry :: entries, rest) := by
  have hstop : Delimited (blanks ++ '}' :: rest) :=
    delimited_blanks hblanks (delimited_cons rest (.inr (.inr (.inr rfl))))
  obtain ⟨gap, hsep, hgap⟩ := separator_eq style depth
  refine loop_joined ReadsEntry.opens ?_ ?_ hs h hfuel
  · intro entry text fuel h hfuel
    have hend : skip (blanks ++ '}' :: rest) = '}' :: rest := skip_blanks hblanks (by decide)
    exact (readEntries_entry h hfuel hstop).2 rest hend
  · intro entry text more fuel h hmore hfuel
    rw [hsep, List.cons_append]
    have hcomma : Delimited (',' :: (gap ++ (more ++ (blanks ++ '}' :: rest)))) :=
      delimited_cons _ (.inr (.inl rfl))
    rw [(readEntries_entry h hfuel hcomma).1 _ (skip_solid (by decide) _), skip_opens hgap hmore]

end Loops

/-! ### Containers -/

/-- A bracket with something behind it that opens a value. -/
theorem readValue_items {cs rest stop : List Char} (hskip : skip rest = cs ++ stop)
    (hcs : Opens cs) (fuel : Nat) :
    readValue (fuel + 1) ('[' :: rest) = (readItems fuel (cs ++ stop)).become Value.ofList := by
  obtain ⟨c, tail, rfl, _, hclose, _⟩ := hcs
  rw [readValue, hskip]
  split
  · next heq => exact absurd (List.cons.inj heq).1 hclose
  · rfl

/-- A brace with something behind it that opens a value. -/
theorem readValue_entries {cs rest stop : List Char} (hskip : skip rest = cs ++ stop)
    (hcs : Opens cs) (fuel : Nat) :
    readValue (fuel + 1) ('{' :: rest) =
      (readEntries fuel (cs ++ stop)).become fun entries => .ofFields (mergeEntries entries) := by
  obtain ⟨c, tail, rfl, _, _, hclose⟩ := hcs
  rw [readValue, hskip]
  split
  · next heq => exact absurd (List.cons.inj heq).1 hclose
  · rfl

theorem enclose_cons (style : Style) (depth : Nat) (opening closing : Char) (text : List Char)
    (texts : List (List Char)) :
    enclose style depth opening closing (text :: texts) =
      opening :: (lineBreak style (depth + 1) ++ (joined style (depth + 1) text texts
        ++ (lineBreak style depth ++ [closing]))) := by
  simp [enclose, joined]

/-- A list of what is read back is read back. -/
theorem reads_list (style : Style) (depth : Nat) {items : List Value} {texts : List (List Char)}
    (h : List.Forall₂ Reads items texts) :
    Reads (.ofList items) (enclose style depth '[' ']' texts) := by
  cases h with
  | nil =>
      refine ⟨⟨'[', _, rfl, by decide, by decide, by decide⟩, ?_⟩
      intro fuel rest hfuel _
      obtain ⟨fuel, rfl⟩ := Nat.exists_eq_succ_of_ne_zero (Nat.ne_of_gt (Nat.zero_lt_of_lt hfuel))
      have hskip : skip (']' :: rest) = ']' :: rest := skip_solid (by decide) rest
      rw [enclose, List.cons_append, readValue, List.singleton_append, hskip]
      rfl
  | @cons v text items texts hv hs =>
      have hopens := opens_joined hv.opens style (depth + 1) texts
      rw [enclose_cons]
      refine ⟨⟨'[', _, rfl, by decide, by decide, by decide⟩, ?_⟩
      intro fuel rest hfuel _
      simp only [List.length_cons, List.length_append, List.length_nil] at hfuel
      obtain ⟨fuel, rfl⟩ : ∃ n, fuel = n + 2 := ⟨fuel - 2, by omega⟩
      have hskip := skip_opens (isBlank_lineBreak style (depth + 1)) hopens
        (lineBreak style depth ++ ']' :: rest)
      have hread : readItems (fuel + 1) (joined style (depth + 1) text texts
          ++ (lineBreak style depth ++ ']' :: rest)) = .ok (v :: items, rest) :=
        readItems_joined (isBlank_lineBreak style depth) hv hs (by omega)
      simp only [List.cons_append, List.append_assoc, List.nil_append]
      rw [readValue_items hskip hopens, hread, become_ok]

/-- A mapping with different keys and values that are read back is read back. -/
theorem reads_mapping (style : Style) (depth : Nat) {ascii : Bool} {entries : Fields}
    {texts : List (List Char)} (hkeys : (Table.keys entries).Nodup)
    (h : List.Forall₂ (ReadsEntry ascii) entries texts) :
    Reads (.ofFields entries) (enclose style depth '{' '}' texts) := by
  cases h with
  | nil =>
      refine ⟨⟨'{', _, rfl, by decide, by decide, by decide⟩, ?_⟩
      intro fuel rest hfuel _
      obtain ⟨fuel, rfl⟩ := Nat.exists_eq_succ_of_ne_zero (Nat.ne_of_gt (Nat.zero_lt_of_lt hfuel))
      have hskip : skip ('}' :: rest) = '}' :: rest := skip_solid (by decide) rest
      rw [enclose, List.cons_append, readValue, List.singleton_append, hskip]
      rfl
  | @cons entry text entries texts hentry hs =>
      have hopens := opens_joined hentry.opens style (depth + 1) texts
      rw [enclose_cons]
      refine ⟨⟨'{', _, rfl, by decide, by decide, by decide⟩, ?_⟩
      intro fuel rest hfuel _
      simp only [List.length_cons, List.length_append, List.length_nil] at hfuel
      obtain ⟨fuel, rfl⟩ : ∃ n, fuel = n + 2 := ⟨fuel - 2, by omega⟩
      have hskip := skip_opens (isBlank_lineBreak style (depth + 1)) hopens
        (lineBreak style depth ++ '}' :: rest)
      have hread : readEntries (fuel + 1) (joined style (depth + 1) text texts
          ++ (lineBreak style depth ++ '}' :: rest)) = .ok (entry :: entries, rest) :=
        readEntries_joined (isBlank_lineBreak style depth) hentry hs (by omega)
      simp only [List.cons_append, List.append_assoc, List.nil_append]
      rw [readValue_entries hskip hopens, hread, become_ok, mergeEntries,
        Table.overlay_nil hkeys]

/-! ### All values -/

theorem write_int (style : Style) {depth : Nat} {i : Int} (h : Integer.isWritable i = true) :
    write style depth (.int i) = .ok (Integer.decimal i).toList := by
  rw [write, Integer.decimal?, h]
  rfl

mutual

/-- Every storable value is written in every style, and what is written is read as the copy of
the value. -/
theorem write_reads (style : Style) : ∀ (depth : Nat) (v : Value), v.isStorable = true →
    ∃ cs, write style depth v = .ok cs ∧ Reads v.copied cs
  | _, .null => fun _ => ⟨_, rfl, reads_null⟩
  | _, .bool b => fun _ => ⟨_, rfl, reads_bool b⟩
  | _, .int i => by
      intro h
      rw [Value.isStorable] at h
      exact ⟨_, write_int style h, reads_int h⟩
  | _, .float d => fun _ => ⟨_, rfl, reads_float d⟩
  | _, .str s => fun _ => ⟨_, rfl, reads_str style.ascii s⟩
  | depth, .list _ items => by
      intro h
      rw [Value.isStorable] at h
      obtain ⟨texts, hwrite, hread⟩ := writeItems_reads style (depth + 1) items h
      refine ⟨_, ?_, reads_list style depth hread⟩
      rw [write, hwrite]
      rfl
  | depth, .mapping _ entries [] => by
      intro h
      rw [Value.isStorable, Bool.and_eq_true, Bool.and_eq_true] at h
      obtain ⟨texts, hwrite, hread⟩ := writeEntries_reads style (depth + 1) entries h.1.2
      have hkeys : (Table.keys (Value.copiedEntries entries)).Nodup := by
        rw [Value.keys_copiedEntries]
        exact of_decide_eq_true h.1.1
      refine ⟨_, ?_, reads_mapping style depth hkeys hread⟩
      rw [write, writeOthers, Value.interleave, hwrite]
      rfl
  | _, .mapping _ _ (_ :: _) => by simp [Value.isStorable]
  | _, .tuple _ _ => fun h => absurd h Bool.false_ne_true
  | _, .object _ _ _ => fun h => absurd h Bool.false_ne_true
  | _, .expr _ => fun h => absurd h Bool.false_ne_true
  | _, .target _ => fun h => absurd h Bool.false_ne_true
  | _, .rule .. => fun h => absurd h Bool.false_ne_true

theorem writeItems_reads (style : Style) : ∀ (depth : Nat) (items : List Value),
    Value.areStorable items = true →
    ∃ texts, writeItems style depth items = .ok texts ∧
      List.Forall₂ Reads (Value.copiedItems items) texts
  | _, [], _ => ⟨[], rfl, .nil⟩
  | depth, v :: rest, h => by
      rw [Value.areStorable, Bool.and_eq_true] at h
      obtain ⟨text, hwrite, hread⟩ := write_reads style depth v h.1
      obtain ⟨texts, hwrites, hreads⟩ := writeItems_reads style depth rest h.2
      refine ⟨text :: texts, ?_, .cons hread hreads⟩
      rw [writeItems, hwrite, hwrites]
      rfl

theorem writeEntries_reads (style : Style) : ∀ (depth : Nat) (entries : List (String × Value)),
    Value.entriesStorable entries = true →
    ∃ texts, (writeEntries style depth entries).mapM id = .ok texts ∧
      List.Forall₂ (ReadsEntry style.ascii) (Value.copiedEntries entries) texts
  | _, [], _ => ⟨[], rfl, .nil⟩
  | depth, (key, v) :: rest, h => by
      rw [Value.entriesStorable, Bool.and_eq_true] at h
      obtain ⟨text, hwrite, hread⟩ := write_reads style depth v h.1
      obtain ⟨texts, hwrites, hreads⟩ := writeEntries_reads style depth rest h.2
      refine ⟨_ :: texts, ?_, .cons ⟨text, rfl, hread⟩ hreads⟩
      rw [writeEntries, List.mapM_cons, hwrite, hwrites]
      rfl

end

/-- The text of a storable value is read as a copy of the value. -/
theorem read_render (style : Style) {v : Value} (h : v.isStorable = true) :
    ∃ text, render style v = .ok text ∧ read text = .ok v.copied := by
  obtain ⟨cs, hwrite, hread⟩ := write_reads style 0 v h
  refine ⟨String.ofList cs, ?_, ?_⟩
  · rw [render, hwrite]
    rfl
  · have hskip : skip cs = cs := by
      obtain ⟨c, tail, rfl, hc, _⟩ := hread.opens
      exact skip_solid hc tail
    have hvalue := hread.read (Nat.lt_succ_self cs.length) delimited_nil
    rw [List.append_nil] at hvalue
    simp only [read, String.toList_ofList, hskip, hvalue]
    rfl

end Json

end Admission
