import Telemetry.Proofs.Json.Number
import Telemetry.Proofs.Json.Text

/-!
# Values read back

A value that fits is one that JSON can say: its doubles are finite, its whole numbers are not too
long, and it is not nested too deep.  Whatever the style puts between its items, such a value is
read back as it was written (`readsBack_of_fits`), and so is a whole document of it
(`ofBytes?_toText`).
-/

namespace Telemetry.Json

open Text

/-! ### Blanks -/

theorem skipBlank_append {blanks : List Char} (h : ∀ c ∈ blanks, isBlank c = true)
    (rest : List Char) : skipBlank (blanks ++ rest) = skipBlank rest :=
  List.dropWhile_append_of_pos h

theorem skipBlank_cons {c : Char} (h : isBlank c = false) (rest : List Char) :
    skipBlank (c :: rest) = c :: rest := by
  rw [skipBlank, List.dropWhile_cons_of_neg (by simp [h])]

/-- A style whose separators are a comma and a colon with blanks behind them. -/
structure Style.Neat (style : Style) : Prop where
  items : ∃ blanks, style.itemSeparator.toList = ',' :: blanks ∧ ∀ c ∈ blanks, isBlank c = true
  names : ∃ blanks, style.nameSeparator.toList = ':' :: blanks ∧ ∀ c ∈ blanks, isBlank c = true
  layout : IsReadable style.layout

theorem Style.isBlank_newLine {style : Style} {level : Nat} {c : Char}
    (h : c ∈ style.newLine level) : isBlank c = true := by
  unfold newLine at h
  split at h
  next => cases h
  next =>
    rcases List.mem_cons.1 h with rfl | h
    · decide
    · rw [(List.mem_replicate.1 h).2]
      decide

theorem endsNumber_cons {c : Char} (rest : List Char)
    (h : isBlank c = true ∨ c = ',' ∨ c = ']' ∨ c = '}') : EndsNumber (c :: rest) := by
  intro d hd
  cases hd
  simp only [isBlank, Bool.or_eq_true, decide_eq_true_eq] at h
  rcases h with (((rfl | rfl) | rfl) | rfl) | rfl | rfl | rfl <;> decide

theorem endsNumber_append {blanks rest : List Char} (h : ∀ c ∈ blanks, isBlank c = true)
    (ends : EndsNumber rest) : EndsNumber (blanks ++ rest) := by
  cases blanks with
  | nil => exact ends
  | cons c blanks => exact endsNumber_cons _ (Or.inl (h c (List.mem_cons_self ..)))

/-! ### Values that can be written -/

/-- The values that JSON can say with a nesting of at most `depth`. -/
inductive Fits : Nat → Json → Prop
  | null {depth : Nat} : Fits depth .null
  | bool {depth : Nat} (value : Bool) : Fits depth (.bool value)
  | int {depth : Nat} {i : Int} (short : IsShort i) : Fits depth (.int i)
  | float {depth : Nat} {x : Double} (finite : x.isFinite = true) : Fits depth (.float x)
  | string {depth : Nat} (s : String) : Fits depth (.string s)
  | emptyArray {depth : Nat} : Fits depth (.array [])
  | emptyObject {depth : Nat} : Fits depth (.object [])
  | array {depth : Nat} {items : List Json} (each : ∀ item ∈ items, Fits depth item) :
      Fits (depth + 1) (.array items)
  | object {depth : Nat} {fields : List (String × Json)}
      (each : ∀ field ∈ fields, Fits depth field.2) : Fits (depth + 1) (.object fields)

/-- How the text of a value is read: it starts at once, and what follows it is left. -/
structure ReadsBack (style : Style) (depth : Nat) (v : Json) : Prop where
  first : ∀ level, ∃ c cs, write style level v = c :: cs ∧ isBlank c = false ∧ c ≠ ']'
  read : ∀ level fuel rest, (write style level v).length ≤ fuel → EndsNumber rest →
    readValue fuel depth (write style level v ++ rest) = some (v, rest)

variable {style : Style} {depth : Nat}

/-! ### Equations of the reader -/

-- They hold by computation.  The equations that are generated for the reader have a case for each
-- first letter, and take long.

theorem readValue_quote (fuel depth : Nat) (cs : List Char) :
    readValue (fuel + 1) depth ('\x22' :: cs)
      = (do let (s, rest) ← readString cs; pure (string s, rest)) := rfl

theorem readValue_bracket (fuel depth : Nat) (cs : List Char) :
    readValue (fuel + 1) (depth + 1) ('[' :: cs) =
      match skipBlank cs with
      | ']' :: rest => some (array [], rest)
      | rest => (do
          let (items, rest) ← readItems fuel depth rest
          pure (array items, rest)) := rfl

theorem readValue_brace (fuel depth : Nat) (cs : List Char) :
    readValue (fuel + 1) (depth + 1) ('{' :: cs) =
      match skipBlank cs with
      | '}' :: rest => some (object [], rest)
      | rest => (do
          let (fields, rest) ← readFields fuel depth rest
          pure (object fields, rest)) := rfl

theorem readItems_succ (fuel depth : Nat) (cs : List Char) :
    readItems (fuel + 1) depth cs = (do
      let (item, rest) ← readValue fuel depth cs
      match skipBlank rest with
      | ',' :: rest =>
          let (items, rest) ← readItems fuel depth (skipBlank rest)
          pure (item :: items, rest)
      | ']' :: rest => pure ([item], rest)
      | _ => none) := rfl

theorem readFields_quote (fuel depth : Nat) (cs : List Char) :
    readFields (fuel + 1) depth ('\x22' :: cs) = (do
      let (name, rest) ← readString cs
      match skipBlank rest with
      | ':' :: rest =>
          let (value, rest) ← readValue fuel depth (skipBlank rest)
          match skipBlank rest with
          | ',' :: rest =>
              let (fields, rest) ← readFields fuel depth (skipBlank rest)
              pure ((name, value) :: fields, rest)
          | '}' :: rest => pure ([(name, value)], rest)
          | _ => none
      | _ => none) := rfl

/-! ### Words, strings and numbers -/

theorem skipWord?_append (word rest : List Char) : skipWord? word (word ++ rest) = some rest := by
  induction word with
  | nil => rfl
  | cons w word ih =>
    rw [List.cons_append, skipWord?, if_pos rfl]
    exact ih

/-- A word is read back if its first letter tells which word it is. -/
theorem readsBack_word {v : Json} (letter : Char) (word : List Char)
    (written : ∀ level, write style level v = letter :: word) (blank : isBlank letter = false)
    (other : letter ≠ ']')
    (read : ∀ fuel rest, readValue (fuel + 1) depth (letter :: rest)
      = (v, ·) <$> skipWord? word rest) : ReadsBack style depth v where
  first := fun level => ⟨letter, word, written level, blank, other⟩
  read := by
    intro level fuel rest room _
    rw [written level] at room ⊢
    cases fuel with
    | zero => exact absurd room (by simp)
    | succ fuel =>
      rw [List.cons_append, read, skipWord?_append]
      rfl

theorem readsBack_bool (value : Bool) : ReadsBack style depth (.bool value) := by
  cases value with
  | true =>
    exact readsBack_word 't' "rue".toList (fun _ => rfl) (by decide) (by decide)
      (fun _ _ => rfl)
  | false =>
    exact readsBack_word 'f' "alse".toList (fun _ => rfl) (by decide) (by decide)
      (fun _ _ => rfl)

theorem readsBack_null : ReadsBack style depth .null :=
  readsBack_word 'n' "ull".toList (fun _ => rfl) (by decide) (by decide)
    (fun _ _ => rfl)

theorem readsBack_string (s : String) : ReadsBack style depth (.string s) where
  first := fun level => ⟨'\x22', _, rfl, by decide, by decide⟩
  read := by
    intro level fuel rest room _
    cases fuel with
    | zero => exact absurd room (Nat.not_succ_le_zero _)
    | succ fuel =>
      have text : write style level (.string s) ++ rest
          = '\x22' :: (s.toList.flatMap (writeChar style.asciiOnly) ++ '\x22' :: rest) := by
        show writeString style.asciiOnly s ++ rest = _
        simp [writeString]
      rw [text, readValue_quote, readString_write]
      rfl

/-- What starts like a number is read as one. -/
theorem readValue_number {c : Char} (h : c = '-' ∨ c.isDigit = true) (fuel : Nat)
    (cs : List Char) : readValue (fuel + 1) depth (c :: cs) = readNumber (c :: cs) := by
  have other : ∀ d : Char, d ≠ '-' → d.isDigit = false → c ≠ d := by
    rintro d minus digit rfl
    rcases h with h | h
    · exact minus h
    · rw [digit] at h
      cases h
  have hn := other 'n' (by decide) (by decide)
  have ht := other 't' (by decide) (by decide)
  have hf := other 'f' (by decide) (by decide)
  have hN := other 'N' (by decide) (by decide)
  have hI := other 'I' (by decide) (by decide)
  have hquote := other '\x22' (by decide) (by decide)
  have hbracket := other '[' (by decide) (by decide)
  have hbrace := other '{' (by decide) (by decide)
  rw [readValue]
  all_goals
    intro more heq
    cases heq
    contradiction

/-- A number starts with no blank and no bracket. -/
theorem plain_of_number {c : Char} (h : c = '-' ∨ c.isDigit = true) :
    isBlank c = false ∧ c ≠ ']' := by
  constructor
  · rcases h with rfl | h
    · decide
    · by_cases blank : isBlank c = true
      · simp only [isBlank, Bool.or_eq_true, decide_eq_true_eq] at blank
        rcases blank with ((rfl | rfl) | rfl) | rfl <;> cases h
      · exact Bool.not_eq_true _ ▸ blank
  · rintro rfl
    rcases h with h | h <;> cases h

theorem readsBack_number {v : Json} {text : List Char}
    (written : ∀ level, write style level v = text) (starts : StartsNumber text)
    (read : ∀ rest, EndsNumber rest → readNumber (text ++ rest) = some (v, rest)) :
    ReadsBack style depth v := by
  obtain ⟨c, cs, rfl, hc⟩ := starts
  refine ⟨fun level => ⟨c, cs, written level, plain_of_number hc⟩, ?_⟩
  · intro level fuel rest room ends
    rw [written level] at room ⊢
    cases fuel with
    | zero => exact absurd room (by simp)
    | succ fuel =>
      rw [← read rest ends]
      exact readValue_number hc fuel (cs ++ rest)

/-! ### Items and fields -/

theorem readItems_last {fuel : Nat} {cs rest more : List Char} {item : Json}
    (value : readValue fuel depth cs = some (item, rest)) (close : skipBlank rest = ']' :: more) :
    readItems (fuel + 1) depth cs = some ([item], more) := by
  simp only [readItems_succ, value, close, Option.bind_eq_bind, Option.bind_some, Option.pure_def]

theorem readItems_more {fuel : Nat} {cs rest more last : List Char} {item : Json}
    {items : List Json} (value : readValue fuel depth cs = some (item, rest))
    (comma : skipBlank rest = ',' :: more)
    (others : readItems fuel depth (skipBlank more) = some (items, last)) :
    readItems (fuel + 1) depth cs = some (item :: items, last) := by
  simp only [readItems_succ, value, comma, others, Option.bind_eq_bind, Option.bind_some,
    Option.pure_def]

theorem readFields_last {fuel : Nat} {cs named colon rest more : List Char} {name : String}
    {value : Json} (hname : readString cs = some (name, named))
    (hcolon : skipBlank named = ':' :: colon)
    (hvalue : readValue fuel depth (skipBlank colon) = some (value, rest))
    (close : skipBlank rest = '}' :: more) :
    readFields (fuel + 1) depth ('\x22' :: cs) = some ([(name, value)], more) := by
  simp only [readFields_quote, hname, hcolon, hvalue, close, Option.bind_eq_bind, Option.bind_some,
    Option.pure_def]

theorem readFields_more {fuel : Nat} {cs named colon rest more last : List Char} {name : String}
    {value : Json} {fields : List (String × Json)} (hname : readString cs = some (name, named))
    (hcolon : skipBlank named = ':' :: colon)
    (hvalue : readValue fuel depth (skipBlank colon) = some (value, rest))
    (comma : skipBlank rest = ',' :: more)
    (others : readFields fuel depth (skipBlank more) = some (fields, last)) :
    readFields (fuel + 1) depth ('\x22' :: cs) = some ((name, value) :: fields, last) := by
  simp only [readFields_quote, hname, hcolon, hvalue, comma, others, Option.bind_eq_bind,
    Option.bind_some, Option.pure_def]

/-- After the last item stands a line break and a closing bracket. -/
theorem endsNumber_close (style : Style) (level : Nat) {close : Char} (rest : List Char)
    (h : close = ']' ∨ close = '}') : EndsNumber (style.newLine level ++ close :: rest) :=
  endsNumber_append (fun _ hc => style.isBlank_newLine hc)
    (endsNumber_cons _ (by rcases h with rfl | rfl <;> decide))

theorem skipBlank_close (style : Style) (level : Nat) {close : Char} (rest : List Char)
    (h : isBlank close = false) :
    skipBlank (style.newLine level ++ close :: rest) = close :: rest := by
  rw [skipBlank_append (fun _ hc => style.isBlank_newLine hc), skipBlank_cons h]

theorem ReadsBack.skipBlank_write {v : Json} (h : ReadsBack style depth v) (level : Nat)
    (rest : List Char) :
    skipBlank (write style level v ++ rest) = write style level v ++ rest := by
  obtain ⟨c, cs, written, blank, -⟩ := h.first level
  rw [written]
  exact skipBlank_cons blank (cs ++ rest)

/-- Blanks before the text of a value are skipped and the value is read. -/
theorem ReadsBack.read_blanks {v : Json} (h : ReadsBack style depth v) {blanks : List Char}
    (blank : ∀ c ∈ blanks, isBlank c = true) {level fuel : Nat} {rest : List Char}
    (room : (write style level v).length ≤ fuel) (ends : EndsNumber rest) :
    readValue fuel depth (skipBlank (blanks ++ (write style level v ++ rest)))
      = some (v, rest) := by
  rw [skipBlank_append blank, h.skipBlank_write]
  exact h.read level fuel rest room ends

/-- **Items are read back** up to the closing bracket. -/
theorem readItems_write (neat : style.Neat) {item : Json} {items : List Json}
    (each : ∀ v ∈ item :: items, ReadsBack style depth v) (level outer : Nat) {fuel : Nat}
    (rest : List Char)
    (room : (write style level item).length + (writeItems style level items).length < fuel) :
    readItems fuel depth (write style level item ++ (writeItems style level items
        ++ (style.newLine outer ++ ']' :: rest)))
      = some (item :: items, rest) := by
  have first := each item (List.mem_cons_self ..)
  induction items generalizing item fuel with
  | nil =>
    have ends := endsNumber_close style outer rest (Or.inl rfl)
    cases fuel with
    | zero => exact absurd room (Nat.not_lt_zero _)
    | succ fuel =>
      exact readItems_last (first.read level fuel _ (by omega) ends)
        (skipBlank_close style outer rest (by decide))
  | cons next items ih =>
    obtain ⟨blanks, separator, blank⟩ := neat.items
    have second := each next (by simp)
    have others : ∀ v ∈ next :: items, ReadsBack style depth v :=
      fun v hv => each v (List.mem_cons_of_mem item hv)
    -- The separator and the line break are all that stands before the next item.
    have text : writeItems style level (next :: items) ++ (style.newLine outer ++ ']' :: rest)
        = ',' :: (blanks ++ (style.newLine level ++ (write style level next
          ++ (writeItems style level items ++ (style.newLine outer ++ ']' :: rest))))) := by
      simp [writeItems, separator]
    -- The separator pays for the step of fuel that an item takes.
    have length : (writeItems style level (next :: items)).length
        = 1 + blanks.length + (style.newLine level).length
          + (write style level next).length + (writeItems style level items).length := by
      simp [writeItems, separator]
      omega
    cases fuel with
    | zero => exact absurd room (Nat.not_lt_zero _)
    | succ fuel =>
      rw [text]
      refine readItems_more
        (first.read level fuel _ (by omega) (endsNumber_cons _ (by decide)))
        (skipBlank_cons (by decide) _) ?_
      rw [skipBlank_append blank, skipBlank_append (fun _ hc => style.isBlank_newLine hc),
        second.skipBlank_write]
      exact ih others (by omega) second

def writeField (style : Style) (level : Nat) (field : String × Json) : List Char :=
  writeString style.asciiOnly field.1 ++ style.nameSeparator.toList ++ write style level field.2

theorem length_write_le (style : Style) (level : Nat) (field : String × Json) :
    (write style level field.2).length ≤ (writeField style level field).length := by
  rw [writeField, List.length_append]
  exact Nat.le_add_left _ _

/-- **Fields are read back** up to the closing brace. -/
theorem readFields_write (neat : style.Neat) {field : String × Json}
    {fields : List (String × Json)}
    (each : ∀ f ∈ field :: fields, ReadsBack style depth f.2) (level outer : Nat) {fuel : Nat}
    (rest : List Char)
    (room : (writeField style level field).length + (writeFields style level fields).length
      < fuel) :
    readFields fuel depth (writeField style level field ++ (writeFields style level fields
        ++ (style.newLine outer ++ '}' :: rest)))
      = some (field :: fields, rest) := by
  have first := each field (List.mem_cons_self ..)
  obtain ⟨colons, colon, colonBlank⟩ := neat.names
  induction fields generalizing field fuel with
  | nil =>
    obtain ⟨name, value⟩ := field
    have ends := endsNumber_close style outer rest (Or.inr rfl)
    have text : writeField style level (name, value) ++ (writeFields style level []
        ++ (style.newLine outer ++ '}' :: rest))
        = '\x22' :: (name.toList.flatMap (writeChar style.asciiOnly) ++ '\x22' :: (':' ::
          (colons ++ (write style level value ++ (style.newLine outer ++ '}' :: rest))))) := by
      simp [writeField, writeFields, writeString, colon]
    have length := length_write_le style level (name, value)
    cases fuel with
    | zero => exact absurd room (Nat.not_lt_zero _)
    | succ fuel =>
      rw [text]
      exact readFields_last (readString_write style.asciiOnly name _)
        (skipBlank_cons (by decide) _) (first.read_blanks colonBlank (by omega) ends)
        (skipBlank_close style outer rest (by decide))
  | cons next fields ih =>
    obtain ⟨blanks, separator, blank⟩ := neat.items
    obtain ⟨name, value⟩ := field
    have second := each next (by simp)
    have others : ∀ f ∈ next :: fields, ReadsBack style depth f.2 :=
      fun f hf => each f (List.mem_cons_of_mem _ hf)
    have text : writeField style level (name, value) ++ (writeFields style level (next :: fields)
        ++ (style.newLine outer ++ '}' :: rest))
        = '\x22' :: (name.toList.flatMap (writeChar style.asciiOnly) ++ '\x22' :: (':' ::
          (colons ++ (write style level value ++ (',' :: (blanks ++ (style.newLine level
            ++ (writeField style level next ++ (writeFields style level fields
              ++ (style.newLine outer ++ '}' :: rest)))))))))) := by
      simp [writeField, writeFields, writeString, colon, separator]
    have length := length_write_le style level (name, value)
    have more : (writeField style level next).length + (writeFields style level fields).length
        < (writeFields style level (next :: fields)).length := by
      simp [writeField, writeFields, separator]
      omega
    -- The next field starts with a quote, so no blank is skipped in front of it.
    have quote : ∃ cs, writeField style level next ++ (writeFields style level fields
        ++ (style.newLine outer ++ '}' :: rest)) = '\x22' :: cs :=
      ⟨_, by rw [writeField, writeString]; rfl⟩
    cases fuel with
    | zero => exact absurd room (Nat.not_lt_zero _)
    | succ fuel =>
      rw [text]
      refine readFields_more (readString_write style.asciiOnly name _)
        (skipBlank_cons (by decide) _)
        (first.read_blanks colonBlank (by omega) (endsNumber_cons _ (by decide)))
        (skipBlank_cons (by decide) _) ?_
      rw [skipBlank_append blank, skipBlank_append (fun _ hc => style.isBlank_newLine hc)]
      obtain ⟨cs, starts⟩ := quote
      rw [starts, skipBlank_cons (by decide), ← starts]
      exact ih others (by omega) second

/-! ### Arrays and objects -/

theorem write_array (style : Style) (level : Nat) (item : Json) (items : List Json)
    (rest : List Char) :
    write style level (.array (item :: items)) ++ rest
      = '[' :: (style.newLine (level + 1) ++ (write style (level + 1) item
        ++ (writeItems style (level + 1) items ++ (style.newLine level ++ ']' :: rest)))) := by
  show '[' :: style.newLine (level + 1) ++ write style (level + 1) item
    ++ writeItems style (level + 1) items ++ style.newLine level ++ [']'] ++ rest = _
  simp only [List.append_assoc, List.cons_append, List.nil_append]

theorem write_object (style : Style) (level : Nat) (field : String × Json)
    (fields : List (String × Json)) (rest : List Char) :
    write style level (.object (field :: fields)) ++ rest
      = '{' :: (style.newLine (level + 1) ++ (writeField style (level + 1) field
        ++ (writeFields style (level + 1) fields ++ (style.newLine level ++ '}' :: rest)))) := by
  show '{' :: style.newLine (level + 1) ++ writeString style.asciiOnly field.1
    ++ style.nameSeparator.toList ++ write style (level + 1) field.2
    ++ writeFields style (level + 1) fields ++ style.newLine level ++ ['}'] ++ rest = _
  simp only [writeField, List.append_assoc, List.cons_append, List.nil_append]

/-- The brackets of an array are not part of its items. -/
theorem length_write_array (style : Style) (level : Nat) (item : Json) (items : List Json) :
    (write style (level + 1) item).length + (writeItems style (level + 1) items).length + 2
      ≤ (write style level (.array (item :: items))).length := by
  have text := write_array style level item items []
  rw [List.append_nil] at text
  rw [text]
  simp only [List.length_cons, List.length_append, List.length_nil]
  omega

/-- The braces of an object are not part of its fields. -/
theorem length_write_object (style : Style) (level : Nat) (field : String × Json)
    (fields : List (String × Json)) :
    (writeField style (level + 1) field).length + (writeFields style (level + 1) fields).length + 2
      ≤ (write style level (.object (field :: fields))).length := by
  have text := write_object style level field fields []
  rw [List.append_nil] at text
  rw [text]
  simp only [List.length_cons, List.length_append, List.length_nil]
  omega

theorem readValue_array {fuel : Nat} {cs more last : List Char} {items : List Json}
    (start : skipBlank cs = more) (other : more.head? ≠ some ']')
    (read : readItems fuel depth more = some (items, last)) :
    readValue (fuel + 1) (depth + 1) ('[' :: cs) = some (.array items, last) := by
  rw [readValue_bracket, start]
  split
  next => exact absurd rfl other
  next =>
    dsimp only
    rw [read]
    rfl

theorem readValue_object {fuel : Nat} {cs more last : List Char}
    {fields : List (String × Json)} (start : skipBlank cs = more)
    (other : more.head? ≠ some '}') (read : readFields fuel depth more = some (fields, last)) :
    readValue (fuel + 1) (depth + 1) ('{' :: cs) = some (.object fields, last) := by
  rw [readValue_brace, start]
  split
  next => exact absurd rfl other
  next =>
    dsimp only
    rw [read]
    rfl

theorem readsBack_emptyArray : ReadsBack style depth (.array []) where
  first := fun _ => ⟨'[', [']'], rfl, by decide, by decide⟩
  read := by
    intro level fuel rest room _
    cases fuel with
    | zero => exact absurd room (Nat.not_succ_le_zero _)
    | succ fuel => rfl

theorem readsBack_emptyObject : ReadsBack style depth (.object []) where
  first := fun _ => ⟨'{', ['}'], rfl, by decide, by decide⟩
  read := by
    intro level fuel rest room _
    cases fuel with
    | zero => exact absurd room (Nat.not_succ_le_zero _)
    | succ fuel => rfl

theorem readsBack_array (neat : style.Neat) {items : List Json}
    (each : ∀ v ∈ items, ReadsBack style depth v) :
    ReadsBack style (depth + 1) (.array items) := by
  cases items with
  | nil => exact readsBack_emptyArray
  | cons item items =>
    refine ⟨fun level => ⟨'[', _, rfl, by decide, by decide⟩, ?_⟩
    intro level fuel rest room _
    have first := each item (List.mem_cons_self ..)
    have length := length_write_array style level item items
    cases fuel with
    | zero => omega
    | succ fuel =>
      rw [write_array]
      refine readValue_array ?_ ?_ (readItems_write neat each (level + 1) level rest (by omega))
      · rw [skipBlank_append (fun _ hc => style.isBlank_newLine hc), first.skipBlank_write]
      · obtain ⟨c, cs, starts, -, other⟩ := first.first (level + 1)
        rw [starts]
        exact fun h => other (Option.some.inj h)

theorem readsBack_object (neat : style.Neat) {fields : List (String × Json)}
    (each : ∀ f ∈ fields, ReadsBack style depth f.2) :
    ReadsBack style (depth + 1) (.object fields) := by
  cases fields with
  | nil => exact readsBack_emptyObject
  | cons field fields =>
    obtain ⟨name, value⟩ := field
    refine ⟨fun level => ⟨'{', _, rfl, by decide, by decide⟩, ?_⟩
    intro level fuel rest room _
    have length := length_write_object style level (name, value) fields
    cases fuel with
    | zero => omega
    | succ fuel =>
      rw [write_object]
      refine readValue_object ?_ ?_ (readFields_write neat each (level + 1) level rest (by omega))
      · rw [skipBlank_append (fun _ hc => style.isBlank_newLine hc), writeField, writeString]
        exact skipBlank_cons (by decide) _
      · rw [writeField, writeString]
        nofun

/-! ### All values -/

/-- **A value that fits is read back as it was written.** -/
theorem readsBack_of_fits (neat : style.Neat) {v : Json} (h : Fits depth v) :
    ReadsBack style depth v := by
  -- The cases are those of `Fits`: the depth goes down where a value is inside another one.
  induction h with
  | null => exact readsBack_null
  | bool value => exact readsBack_bool value
  | int short =>
    exact readsBack_number (fun _ => rfl) (startsNumber_int _)
      (fun _ ends => readNumber_int short ends)
  | float finite =>
    exact readsBack_number (fun _ => rfl) (startsNumber_double style.layout finite)
      (fun _ ends => readNumber_double neat.layout finite ends)
  | string s => exact readsBack_string s
  | emptyArray => exact readsBack_emptyArray
  | emptyObject => exact readsBack_emptyObject
  | array _ each => exact readsBack_array neat each
  | object _ each => exact readsBack_object neat each

/-- A document of a value that is read back is read back. -/
theorem ofBytes?_toText_of_readsBack {v : Json} (back : ReadsBack style maxDepth v) :
    ofBytes? (Utf8.encode (toText style v)) = some v := by
  have ends : EndsNumber [] := by
    intro c hc
    cases hc
  have read := back.read 0 ((write style 0 v).length + 1) [] (Nat.le_succ _) ends
  have skip := back.skipBlank_write 0 []
  rw [List.append_nil] at read skip
  have text : (toText style v).toList = write style 0 v := by
    rw [toText, String.toList_ofList]
  rw [ofBytes?, Utf8.decode?_encode]
  show ofText? (toText style v) = some v
  rw [ofText?, text, ofChars?, skip, read]
  rfl

/-- **A document of a value that fits is read back.** -/
theorem ofBytes?_toText (neat : style.Neat) {v : Json} (h : Fits maxDepth v) :
    ofBytes? (Utf8.encode (toText style v)) = some v :=
  ofBytes?_toText_of_readsBack (readsBack_of_fits neat h)

end Telemetry.Json
