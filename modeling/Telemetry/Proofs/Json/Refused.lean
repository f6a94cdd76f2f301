import Telemetry.Proofs.Json.Document

/-!
# Texts that are refused

A whole number that is too long cannot be read, and neither can a value that holds one: what stands
before it is read back, and then the reading breaks off, whatever comes after it (`unread_array`,
`unread_object`).  So a whole document of such a value is refused (`ofBytes?_toText_unread`).
-/

namespace Telemetry.Json

open Text

variable {style : Style} {depth : Nat}

/-- The text of a value starts at once, and cannot be read. -/
structure Unread (style : Style) (depth : Nat) (v : Json) : Prop where
  first : ∀ level, ∃ c cs, write style level v = c :: cs ∧ isBlank c = false ∧ c ≠ ']'
  refused : ∀ level fuel rest, (write style level v).length ≤ fuel → EndsNumber rest →
    readValue fuel depth (write style level v ++ rest) = none

theorem Unread.skipBlank_write {v : Json} (h : Unread style depth v) (level : Nat)
    (rest : List Char) :
    skipBlank (write style level v ++ rest) = write style level v ++ rest := by
  obtain ⟨c, cs, written, blank, -⟩ := h.first level
  rw [written]
  exact skipBlank_cons blank (cs ++ rest)

/-! ### Numbers -/

theorem readMagnitude_long (negative : Bool) {ds rest : List Char}
    (digits : ∀ c ∈ ds, c.isDigit = true) (long : Numeral.maxDigits < ds.length)
    (ends : NoDigit rest) : readMagnitude negative (ds ++ rest) = none := by
  have whole : readWhole (ds ++ rest) = none := by
    rw [readWhole, splitDigits_append digits ends]
    dsimp only
    split
    · rfl
    · rfl
    · rw [if_pos long]
  rw [readMagnitude, whole]
  rfl

/-- **A whole number that is too long is refused.** -/
theorem readNumber_long {i : Int} (long : ¬ IsShort i) {rest : List Char}
    (ends : EndsNumber rest) : readNumber ((ofInt i).toList ++ rest) = none := by
  have refused (negative : Bool) : readMagnitude negative (Nat.toDigits 10 i.natAbs ++ rest)
      = none :=
    readMagnitude_long negative (fun _ hc => isDigit_toDigits hc) (Nat.lt_of_not_le long)
      ends.noDigit
  rw [toList_ofInt]
  obtain ⟨c, cs, digits, hc⟩ := toDigits_first i.natAbs
  rw [digits] at refused ⊢
  cases decide (i < 0) with
  | true =>
    rw [← refused true]
    exact readNumber_minus (cs ++ rest) hc
  | false =>
    rw [← refused false]
    exact readNumber_digit (cs ++ rest) hc

theorem unread_int {i : Int} (long : ¬ IsShort i) : Unread style depth (.int i) := by
  obtain ⟨c, cs, text, hc⟩ := startsNumber_int i
  have written (level : Nat) : write style level (.int i) = c :: cs := text
  refine ⟨fun level => ⟨c, cs, written level, plain_of_number hc⟩, ?_⟩
  intro level fuel rest room ends
  cases fuel with
  | zero => exact absurd room (by rw [written]; simp)
  | succ fuel =>
    rw [written, List.cons_append, readValue_number hc fuel (cs ++ rest), ← List.cons_append,
      ← text]
    exact readNumber_long long ends

/-! ### Items and fields -/

/-- Values are read back up to one that cannot be read. -/
inductive BreaksOff (style : Style) (depth : Nat) : List Json → Prop
  | here {v : Json} {later : List Json} (h : Unread style depth v) :
      BreaksOff style depth (v :: later)
  | later {v : Json} {later : List Json} (h : ReadsBack style depth v)
      (rest : BreaksOff style depth later) : BreaksOff style depth (v :: later)

/-- The first value that cannot be read is where the reading breaks off. -/
theorem breaksOff_of_mem {vs : List Json} {v : Json}
    (each : ∀ w ∈ vs, ReadsBack style depth w ∨ Unread style depth w) (hv : v ∈ vs)
    (h : Unread style depth v) : BreaksOff style depth vs := by
  induction vs with
  | nil => cases hv
  | cons w vs ih =>
    rcases each w List.mem_cons_self with back | unread
    · rcases List.mem_cons.1 hv with rfl | hv
      · exact .here h
      · exact .later back (ih (fun w hw => each w (List.mem_cons_of_mem _ hw)) hv)
    · exact .here unread

theorem BreaksOff.starts {v : Json} {later : List Json}
    (h : BreaksOff style depth (v :: later)) (level : Nat) :
    ∃ c cs, write style level v = c :: cs ∧ isBlank c = false ∧ c ≠ ']' := by
  cases h with
  | here h => exact h.first level
  | later h => exact h.first level

theorem BreaksOff.skipBlank_write {v : Json} {later : List Json}
    (h : BreaksOff style depth (v :: later)) (level : Nat) (rest : List Char) :
    skipBlank (write style level v ++ rest) = write style level v ++ rest := by
  obtain ⟨c, cs, written, blank, -⟩ := h.starts level
  rw [written]
  exact skipBlank_cons blank (cs ++ rest)

/-- After a value stands a separator, or a line break and a closing bracket. -/
theorem endsNumber_items (neat : style.Neat) (level outer : Nat) (items : List Json)
    (rest : List Char) :
    EndsNumber (writeItems style level items ++ (style.newLine outer ++ ']' :: rest)) := by
  cases items with
  | nil => exact endsNumber_close style outer rest (Or.inl rfl)
  | cons next items =>
    obtain ⟨blanks, separator, -⟩ := neat.items
    rw [writeItems, separator]
    exact endsNumber_cons _ (by decide)

theorem endsNumber_fields (neat : style.Neat) (level outer : Nat) (fields : List (String × Json))
    (rest : List Char) :
    EndsNumber (writeFields style level fields ++ (style.newLine outer ++ '}' :: rest)) := by
  cases fields with
  | nil => exact endsNumber_close style outer rest (Or.inr rfl)
  | cons next fields =>
    obtain ⟨blanks, separator, -⟩ := neat.items
    rw [writeFields, separator]
    exact endsNumber_cons _ (by decide)

theorem readItems_none {fuel : Nat} {cs : List Char} (value : readValue fuel depth cs = none) :
    readItems (fuel + 1) depth cs = none := by
  rw [readItems_succ, value]
  rfl

theorem readItems_later_none {fuel : Nat} {cs rest more : List Char} {item : Json}
    (value : readValue fuel depth cs = some (item, rest)) (comma : skipBlank rest = ',' :: more)
    (others : readItems fuel depth (skipBlank more) = none) :
    readItems (fuel + 1) depth cs = none := by
  simp only [readItems_succ, value, comma, others, Option.bind_eq_bind, Option.bind_some,
    Option.bind_none]

theorem readFields_value_none {fuel : Nat} {cs named colon : List Char} {name : String}
    (hname : readString cs = some (name, named)) (hcolon : skipBlank named = ':' :: colon)
    (hvalue : readValue fuel depth (skipBlank colon) = none) :
    readFields (fuel + 1) depth ('\x22' :: cs) = none := by
  simp only [readFields_quote, hname, hcolon, hvalue, Option.bind_eq_bind, Option.bind_some,
    Option.bind_none]

theorem readFields_later_none {fuel : Nat} {cs named colon rest more : List Char} {name : String}
    {value : Json} (hname : readString cs = some (name, named))
    (hcolon : skipBlank named = ':' :: colon)
    (hvalue : readValue fuel depth (skipBlank colon) = some (value, rest))
    (comma : skipBlank rest = ',' :: more)
    (others : readFields fuel depth (skipBlank more) = none) :
    readFields (fuel + 1) depth ('\x22' :: cs) = none := by
  simp only [readFields_quote, hname, hcolon, hvalue, comma, others, Option.bind_eq_bind,
    Option.bind_some, Option.bind_none]

/-- **Items are refused** if one of them is. -/
theorem readItems_unread (neat : style.Neat) {item : Json} {items : List Json}
    (h : BreaksOff style depth (item :: items)) (level outer : Nat) {fuel : Nat}
    (rest : List Char)
    (room : (write style level item).length + (writeItems style level items).length < fuel) :
    readItems fuel depth (write style level item ++ (writeItems style level items
        ++ (style.newLine outer ++ ']' :: rest))) = none := by
  -- The induction is on the items; those before the refused one are read as usual.
  induction items generalizing item fuel with
  | nil =>
    cases h with
    | here h =>
      cases fuel with
      | zero => exact absurd room (Nat.not_lt_zero _)
      | succ fuel =>
        exact readItems_none (h.refused level fuel _ (by omega)
          (endsNumber_items neat level outer [] rest))
    | later _ others => cases others
  | cons next items ih =>
    cases fuel with
    | zero => exact absurd room (Nat.not_lt_zero _)
    | succ fuel =>
      cases h with
      | here h =>
        exact readItems_none (h.refused level fuel _ (by omega)
          (endsNumber_items neat level outer (next :: items) rest))
      | later first others =>
        obtain ⟨blanks, separator, blank⟩ := neat.items
        have text : writeItems style level (next :: items) ++ (style.newLine outer ++ ']' :: rest)
            = ',' :: (blanks ++ (style.newLine level ++ (write style level next
              ++ (writeItems style level items ++ (style.newLine outer ++ ']' :: rest))))) := by
          simp [writeItems, separator]
        have length : (writeItems style level (next :: items)).length
            = 1 + blanks.length + (style.newLine level).length
              + (write style level next).length + (writeItems style level items).length := by
          simp [writeItems, separator]
          omega
        rw [text]
        refine readItems_later_none
          (first.read level fuel _ (by omega) (endsNumber_cons _ (by decide)))
          (skipBlank_cons (by decide) _) ?_
        rw [skipBlank_append blank, skipBlank_append (fun _ hc => style.isBlank_newLine hc),
          others.skipBlank_write]
        exact ih others (by omega)

/-- A field is a quoted name, a colon and the text of its value. -/
theorem writeField_text (neat : style.Neat) :
    ∃ colons, (∀ c ∈ colons, isBlank c = true) ∧
      ∀ (level : Nat) (name : String) (value : Json) (rest : List Char),
        writeField style level (name, value) ++ rest
          = '\x22' :: (name.toList.flatMap (writeChar style.asciiOnly) ++ '\x22' :: (':' ::
            (colons ++ (write style level value ++ rest)))) := by
  obtain ⟨colons, colon, blank⟩ := neat.names
  exact ⟨colons, blank, fun level name value rest => by simp [writeField, writeString, colon]⟩

/-- **Fields are refused** if the value of one of them is. -/
theorem readFields_unread (neat : style.Neat) {field : String × Json}
    {fields : List (String × Json)}
    (h : BreaksOff style depth (field.2 :: fields.map (·.2))) (level outer : Nat) {fuel : Nat}
    (rest : List Char)
    (room : (writeField style level field).length + (writeFields style level fields).length
      < fuel) :
    readFields fuel depth (writeField style level field ++ (writeFields style level fields
        ++ (style.newLine outer ++ '}' :: rest))) = none := by
  obtain ⟨colons, colonBlank, text⟩ := writeField_text neat
  induction fields generalizing field fuel with
  | nil =>
    obtain ⟨name, value⟩ := field
    have length := length_write_le style level (name, value)
    cases h with
    | here h =>
      cases fuel with
      | zero => exact absurd room (Nat.not_lt_zero _)
      | succ fuel =>
        rw [text]
        refine readFields_value_none (readString_write style.asciiOnly name _)
          (skipBlank_cons (by decide) _) ?_
        rw [skipBlank_append colonBlank, h.skipBlank_write]
        exact h.refused level fuel _ (by omega) (endsNumber_fields neat level outer [] rest)
    | later _ others => cases others
  | cons next fields ih =>
    obtain ⟨name, value⟩ := field
    have length := length_write_le style level (name, value)
    cases fuel with
    | zero => exact absurd room (Nat.not_lt_zero _)
    | succ fuel =>
      rw [text]
      cases h with
      | here h =>
        refine readFields_value_none (readString_write style.asciiOnly name _)
          (skipBlank_cons (by decide) _) ?_
        rw [skipBlank_append colonBlank, h.skipBlank_write]
        exact h.refused level fuel _ (by omega)
          (endsNumber_fields neat level outer (next :: fields) rest)
      | later first others =>
        obtain ⟨blanks, separator, blank⟩ := neat.items
        have others_text : writeFields style level (next :: fields)
              ++ (style.newLine outer ++ '}' :: rest)
            = ',' :: (blanks ++ (style.newLine level ++ (writeField style level next
              ++ (writeFields style level fields ++ (style.newLine outer ++ '}' :: rest))))) := by
          simp [writeFields, writeField, separator]
        have more : (writeField style level next).length + (writeFields style level fields).length
            < (writeFields style level (next :: fields)).length := by
          simp [writeField, writeFields, separator]
          omega
        -- The next field starts with a quote, so no blank is skipped in front of it.
        have quote : ∃ cs, writeField style level next ++ (writeFields style level fields
            ++ (style.newLine outer ++ '}' :: rest)) = '\x22' :: cs :=
          ⟨_, by rw [writeField, writeString]; rfl⟩
        rw [others_text]
        refine readFields_later_none (readString_write style.asciiOnly name _)
          (skipBlank_cons (by decide) _)
          (first.read_blanks colonBlank (by omega) (endsNumber_cons _ (by decide)))
          (skipBlank_cons (by decide) _) ?_
        rw [skipBlank_append blank, skipBlank_append (fun _ hc => style.isBlank_newLine hc)]
        obtain ⟨cs, starts⟩ := quote
        rw [starts, skipBlank_cons (by decide), ← starts]
        exact ih others (by omega)

/-! ### Arrays, objects and documents -/

theorem readValue_array_none {fuel : Nat} {cs more : List Char} (start : skipBlank cs = more)
    (other : more.head? ≠ some ']') (refused : readItems fuel depth more = none) :
    readValue (fuel + 1) (depth + 1) ('[' :: cs) = none := by
  rw [readValue_bracket, start]
  split
  next => exact absurd rfl other
  next =>
    dsimp only
    rw [refused]
    rfl

theorem readValue_object_none {fuel : Nat} {cs more : List Char} (start : skipBlank cs = more)
    (other : more.head? ≠ some '}') (refused : readFields fuel depth more = none) :
    readValue (fuel + 1) (depth + 1) ('{' :: cs) = none := by
  rw [readValue_brace, start]
  split
  next => exact absurd rfl other
  next =>
    dsimp only
    rw [refused]
    rfl

theorem unread_array (neat : style.Neat) {items : List Json} (h : BreaksOff style depth items) :
    Unread style (depth + 1) (.array items) := by
  cases items with
  | nil => cases h
  | cons item items =>
    refine ⟨fun level => ⟨'[', _, rfl, by decide, by decide⟩, ?_⟩
    intro level fuel rest room _
    have length := length_write_array style level item items
    cases fuel with
    | zero => omega
    | succ fuel =>
      rw [write_array]
      refine readValue_array_none ?_ ?_ (readItems_unread neat h (level + 1) level rest
        (by omega))
      · rw [skipBlank_append (fun _ hc => style.isBlank_newLine hc), h.skipBlank_write]
      · obtain ⟨c, cs, starts, -, other⟩ := h.starts (level + 1)
        rw [starts]
        exact fun h => other (Option.some.inj h)

theorem unread_object (neat : style.Neat) {fields : List (String × Json)}
    (h : BreaksOff style depth (fields.map (·.2))) :
    Unread style (depth + 1) (.object fields) := by
  cases fields with
  | nil => cases h
  | cons field fields =>
    refine ⟨fun level => ⟨'{', _, rfl, by decide, by decide⟩, ?_⟩
    intro level fuel rest room _
    have length := length_write_object style level field fields
    cases fuel with
    | zero => omega
    | succ fuel =>
      rw [write_object]
      refine readValue_object_none ?_ ?_ (readFields_unread neat h (level + 1) level rest
        (by omega))
      · rw [skipBlank_append (fun _ hc => style.isBlank_newLine hc), writeField, writeString]
        exact skipBlank_cons (by decide) _
      · rw [writeField, writeString]
        exact fun h => absurd (Option.some.inj h) (by decide)

/-- **A document of what cannot be read is refused.** -/
theorem ofBytes?_toText_unread {v : Json} (h : Unread style maxDepth v) :
    ofBytes? (Utf8.encode (toText style v)) = none := by
  have ends : EndsNumber [] := by
    intro c hc
    cases hc
  have refused := h.refused 0 ((write style 0 v).length + 1) [] (Nat.le_succ _) ends
  have skip := h.skipBlank_write 0 []
  rw [List.append_nil] at refused skip
  have text : (toText style v).toList = write style 0 v := by
    rw [toText, String.toList_ofList]
  rw [ofBytes?, Utf8.decode?_encode]
  show ofText? (toText style v) = none
  rw [ofText?, text, ofChars?, skip, refused]
  rfl

end Telemetry.Json
