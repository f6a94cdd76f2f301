import Telemetry.Text.Html

/-!
# Markup

A text of markup is a sequence of tags and characters.  An escaped text has no tags
(`scan_escapeChars`), no quotation marks, and no ampersand but those of its references
(`inert_escapeChars`).  So whatever it says, it is a text and nothing else.
-/

namespace Telemetry.Html

/-! ### Tags and characters -/

/-- What markup is made of. -/
inductive Token
  | tag (text : List Char)
  | char (c : Char)
  deriving DecidableEq

/-- Read markup.  The state is what has been read of a tag that is open, if there is one. -/
def scan : Option (List Char) → List Char → List Token × Option (List Char)
  | tag?, [] => ([], tag?)
  | none, c :: rest =>
      if c = '<' then scan (some []) rest
      else ((.char c :: (scan none rest).1), (scan none rest).2)
  | some text, c :: rest =>
      if c = '>' then ((.tag text :: (scan none rest).1), (scan none rest).2)
      else scan (some (text ++ [c])) rest

/-- The tags and characters of a text.  A tag that is not closed at its end does not count. -/
def tokens (cs : List Char) : List Token := (scan none cs).1

def Token.tag? : Token → Option String
  | tag text => some (String.ofList text)
  | char _ => none

/-- The tags of a text, in order. -/
def tags (cs : List Char) : List String := (tokens cs).filterMap Token.tag?

/-- The characters before the first tag. -/
def leading : List Token → List Char
  | .char c :: rest => c :: leading rest
  | _ => []

/-- For every tag of some text, what stands between it and the next tag. -/
def within (text : List Char) : List Token → List (List Char)
  | [] => []
  | .char _ :: rest => within text rest
  | .tag other :: rest =>
      if other = text then leading rest :: within text rest else within text rest

variable {cs ds text : List Char}

theorem scan_append (tag? : Option (List Char)) (cs ds : List Char) :
    scan tag? (cs ++ ds)
      = ((scan tag? cs).1 ++ (scan (scan tag? cs).2 ds).1, (scan (scan tag? cs).2 ds).2) := by
  fun_induction scan tag? cs with
  | case1 => rfl
  | case2 rest ih => rw [List.cons_append, scan, if_pos rfl, ih]
  | case3 c rest other ih => rw [List.cons_append, scan, if_neg other, ih]; rfl
  | case4 text rest ih => rw [List.cons_append, scan, if_pos rfl, ih]; rfl
  | case5 text c rest other ih => rw [List.cons_append, scan, if_neg other, ih]

/-- A text that leaves no tag open is read for itself. -/
theorem scan_append_of_closed {toks : List Token} (closed : scan none cs = (toks, none))
    (ds : List Char) : scan none (cs ++ ds) = (toks ++ (scan none ds).1, (scan none ds).2) := by
  rw [scan_append, closed]

/-- A text without tags is its characters. -/
theorem scan_of_noTag (noTag : '<' ∉ cs) : scan none cs = (cs.map .char, none) := by
  induction cs with
  | nil => rfl
  | cons c rest ih =>
    obtain ⟨other, noTag⟩ := not_or.1 (mt List.mem_cons.2 noTag)
    rw [scan, if_neg (Ne.symm other), ih noTag]
    rfl

/-- A text is passed over where one looks for other tags. -/
theorem within_append {toks : List Token} (other : .tag text ∉ toks) (rest : List Token) :
    within text (toks ++ rest) = within text rest := by
  induction toks with
  | nil => rfl
  | cons tok toks ih =>
    obtain ⟨ne, others⟩ := not_or.1 (mt List.mem_cons.2 other)
    cases tok with
    | char c => exact ih others
    | tag text' =>
      have ne : text' ≠ text := fun same => ne (same ▸ rfl)
      rw [List.cons_append, within, if_neg ne, ih others]

theorem leading_chars (cs text : List Char) (rest : List Token) :
    leading (cs.map .char ++ .tag text :: rest) = cs := by
  induction cs with
  | nil => rfl
  | cons c cs ih => exact congrArg (c :: ·) ih

/-! ### Escaped text -/

/-- The five references. -/
def references : List String := ["&amp;", "&lt;", "&gt;", "&quot;", "&#x27;"]

/-- A text without a meaning in markup: it has no angle brackets and no quotation marks, and every
ampersand begins a reference. -/
structure Inert (cs : List Char) : Prop where
  plain : ∀ c ∈ cs, c ≠ '<' ∧ c ≠ '>' ∧ c ≠ '\x22' ∧ c ≠ '\x27'
  referring : ∀ rest, '&' :: rest <:+ cs →
    ∃ reference ∈ references, reference.toList <+: '&' :: rest

theorem escapeChars_append (cs ds : List Char) :
    escapeChars (cs ++ ds) = escapeChars cs ++ escapeChars ds := List.flatMap_append

/-- A character is written as itself or as a reference. -/
theorem escapeChar_cases (c : Char) :
    escapeChar c = [c] ∧ c ≠ '&' ∧ c ≠ '<' ∧ c ≠ '>' ∧ c ≠ '\x22' ∧ c ≠ '\x27' ∨
      ∃ reference ∈ references, escapeChar c = reference.toList := by
  unfold escapeChar
  split
  · exact .inr ⟨_, by decide, rfl⟩
  split
  · exact .inr ⟨_, by decide, rfl⟩
  split
  · exact .inr ⟨_, by decide, rfl⟩
  split
  · exact .inr ⟨_, by decide, rfl⟩
  split
  · exact .inr ⟨_, by decide, rfl⟩
  next ampersand less greater quote apostrophe =>
    exact .inl ⟨rfl, ampersand, less, greater, quote, apostrophe⟩

/-- A reference is an ampersand and characters without a meaning in markup. -/
theorem exists_reference {reference : String} (h : reference ∈ references) :
    ∃ letters, reference.toList = '&' :: letters ∧
      ∀ c ∈ letters, c ≠ '&' ∧ c ≠ '<' ∧ c ≠ '>' ∧ c ≠ '\x22' ∧ c ≠ '\x27' := by
  simp only [references, List.mem_cons, List.not_mem_nil, or_false] at h
  rcases h with rfl | rfl | rfl | rfl | rfl
  · exact ⟨"amp;".toList, rfl, by simp⟩
  · exact ⟨"lt;".toList, rfl, by simp⟩
  · exact ⟨"gt;".toList, rfl, by simp⟩
  · exact ⟨"quot;".toList, rfl, by simp⟩
  · exact ⟨"#x27;".toList, rfl, by simp⟩

/-- An ampersand comes after letters that are none. -/
theorem suffix_of_suffix_append {letters rest : List Char} (none : ∀ c ∈ letters, c ≠ '&')
    (h : '&' :: rest <:+ letters ++ cs) : '&' :: rest <:+ cs := by
  induction letters with
  | nil => exact h
  | cons c letters ih =>
    obtain ⟨first, others⟩ := List.forall_mem_cons.1 none
    rcases List.suffix_cons_iff.1 h with here | later
    · exact absurd (List.cons.inj here).1.symm first
    · exact ih others later

/-- **An escaped text has no meaning in markup.** -/
theorem inert_escapeChars (cs : List Char) : Inert (escapeChars cs) := by
  induction cs with
  | nil => exact ⟨nofun, fun rest h => nomatch List.suffix_nil.1 h⟩
  | cons c cs ih =>
    rw [escapeChars, List.flatMap_cons, ← escapeChars]
    obtain ⟨same, other⟩ | ⟨reference, known, written⟩ := escapeChar_cases c
    · rw [same, List.singleton_append]
      refine ⟨List.forall_mem_cons.2 ⟨other.2, ih.plain⟩, fun rest h => ?_⟩
      rcases List.suffix_cons_iff.1 h with here | later
      · exact absurd (List.cons.inj here).1.symm other.1
      · exact ih.referring rest later
    · obtain ⟨letters, spelled, plain⟩ := exists_reference known
      rw [written, spelled, List.cons_append]
      constructor
      · refine List.forall_mem_cons.2 ⟨by decide, fun d hd => ?_⟩
        rcases List.mem_append.1 hd with hd | hd
        · exact (plain d hd).2
        · exact ih.plain d hd
      · intro rest h
        rcases List.suffix_cons_iff.1 h with here | later
        · refine ⟨reference, known, ?_⟩
          rw [here, spelled]
          exact ⟨_, rfl⟩
        · exact ih.referring rest (suffix_of_suffix_append (fun d hd => (plain d hd).1) later)

theorem scan_escapeChars (cs : List Char) :
    scan none (escapeChars cs) = ((escapeChars cs).map .char, none) :=
  scan_of_noTag fun h => ((inert_escapeChars cs).plain _ h).1 rfl

end Telemetry.Html
