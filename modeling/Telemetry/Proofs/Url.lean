import Mathlib.Data.List.TakeDrop
import Telemetry.Url

/-!
# The end of a URL

A path below a URL ends as it is written, whatever the URL is: neither the dot segments above it
nor a query change its last character (`getLast?_target_below`).  So paths that end differently
stay different.
-/

namespace Telemetry.Url

variable {c : Char}

/-- What is escaped ends with the same character, if that may stand. -/
theorem getLast?_escape {safe : Char → Bool} (plain : safe c = true) {cs : List Char}
    (last : cs.getLast? = some c) : (escape safe cs).getLast? = some c := by
  -- The cases are those of `escape`: an escape, a percent sign alone, another character, the end.
  fun_induction escape safe cs with
  | case1 a b rest hex ih =>
    cases rest with
    | nil => simpa [escape] using last
    | cons d rest =>
      have shorter := ih (by simpa using last)
      simp [List.getLast?_cons, shorter]
  | case2 a b rest hex ih =>
    have shorter := ih (by simpa using last)
    rw [List.getLast?_append, shorter, Option.some_or]
  | case3 d rest _ ih =>
    cases rest with
    | nil =>
      cases last
      simp only [List.getLast_singleton] at plain
      simp [escape, plain]
    | cons d' rest =>
      have shorter := ih (by simpa using last)
      rw [List.getLast?_append, shorter, Option.some_or]
  | case4 => cases last

/-- Parts that are joined end as the last of them, unless that is empty. -/
theorem getLast?_intercalate {α : Type} (separator : List α) (init : List (List α)) {last : List α}
    (nonempty : last ≠ []) :
    (separator.intercalate (init ++ [last])).getLast? = last.getLast? := by
  induction init with
  | nil => rw [List.nil_append, List.intercalate_singleton]
  | cons first init ih =>
    rw [List.cons_append, List.intercalate_cons_of_ne_nil (by simp), List.getLast?_append, ih,
      List.getLast?_eq_some_getLast nonempty, Option.some_or]

/-- If the last part is empty, they end with the separator. -/
theorem getLast?_intercalate_nil (init : List (List Char)) :
    ∀ d ∈ (['/'].intercalate (init ++ [[]])).getLast?, d = '/' := by
  induction init with
  | nil => nofun
  | cons first init ih =>
    intro d hd
    rw [List.cons_append, List.intercalate_cons_of_ne_nil (by simp), List.getLast?_append] at hd
    cases h : (['/'].intercalate (init ++ [[]])).getLast? with
    | some d' =>
      rw [h] at hd
      cases hd
      exact ih _ h
    | none =>
      rw [h, Option.none_or, List.getLast?_append] at hd
      cases hd
      rfl

/-- A path that does not end with a slash has a last segment that ends as it does. -/
theorem exists_last_segment {path : List Char} (last : path.getLast? = some c) (ne : c ≠ '/') :
    ∃ init segment, segments path = init ++ [segment] ∧ segment.getLast? = some c := by
  have joined : ['/'].intercalate (segments path) = path := List.intercalate_splitOn '/'
  rcases List.eq_nil_or_concat (segments path) with none | ⟨init, segment, split⟩
  · rw [none] at joined
    cases joined
    cases last
  · rw [List.concat_eq_append] at split
    rw [split] at joined
    refine ⟨init, segment, split, ?_⟩
    rw [← joined] at last
    cases segment with
    | nil => exact absurd (getLast?_intercalate_nil init c last) ne
    | cons d rest => rw [← getLast?_intercalate ['/'] init (List.cons_ne_nil d rest), last]

/-- Dots that are resolved do not change the end. -/
theorem getLast?_resolveDots {path : List Char} (last : path.getLast? = some c) (slash : c ≠ '/')
    (dot : c ≠ '.') : (resolveDots path).getLast? = some c := by
  obtain ⟨init, segment, split, ends⟩ := exists_last_segment last slash
  have plain : ∀ init, resolveSegment init segment = segment :: init := by
    intro init
    unfold resolveSegment
    rw [if_neg, if_neg]
    · rintro rfl
      cases ends
      exact dot rfl
    · rintro rfl
      cases ends
      exact dot rfl
  have nonempty : segment ≠ [] := by
    rintro rfl
    cases ends
  rw [resolveDots, split, List.foldl_append, List.foldl_cons, List.foldl_nil, plain,
    List.reverse_cons, getLast?_intercalate _ _ nonempty, ends]

/-- What is sent of a URL ends as its target does. -/
theorem getLast?_target_withTarget (u : Url) {target : List Char}
    (last : target.getLast? = some c) (plain : isPathChar c = true) (slash : c ≠ '/')
    (dot : c ≠ '.') : (u.withTarget target).target.getLast? = some c := by
  have inQuery : isQueryChar c = true := (Bool.and_eq_true_iff.1 plain).1
  have split := List.takeWhile_append_dropWhile (p := fun c => decide (c ≠ '?')) (l := target)
  unfold withTarget
  rw [List.span_eq_takeWhile_dropWhile]
  generalize List.takeWhile _ target = path at split ⊢
  cases hrest : List.dropWhile (fun c => decide (c ≠ '?')) target with
  | nil =>
    rw [hrest, List.append_nil] at split
    subst split
    have sent : (escape isPathChar
        (if u.scheme ≠ "" || u.located then resolveDots path else path)).getLast? = some c := by
      refine getLast?_escape plain ?_
      split
      · exact getLast?_resolveDots last slash dot
      · exact last
    have nonempty : ¬ (escape isPathChar
        (if u.scheme ≠ "" || u.located then resolveDots path else path)).isEmpty := by
      intro none
      rw [List.isEmpty_iff.1 none] at sent
      cases sent
    simp only [Url.target, Option.map_none, List.append_nil]
    rw [if_neg nonempty, sent]
  | cons mark query =>
    -- The query is not empty, since the last character is no question mark.
    have ends : query.getLast? = some c := by
      have isMark := List.head?_dropWhile_not (fun c => decide (c ≠ '?')) target
      rw [hrest] at isMark split
      rw [← split, List.getLast?_append, List.getLast?_cons, Option.some_or] at last
      cases query with
      | nil =>
        cases last
        simp only [List.head?_cons, decide_eq_false_iff_not, not_not] at isMark
        subst isMark
        exact absurd plain (by decide)
      | cons d rest => simpa [List.getLast?_cons] using last
    simp only [Url.target, Option.map_some]
    rw [List.getLast?_append, List.getLast?_cons, getLast?_escape inQuery ends]
    rfl

/-- **A path below a URL ends as it is written.** -/
theorem getLast?_target_below (u : Url) (path : String)
    (last : (path.toList.dropWhile (· = '/')).getLast? = some c) (plain : isPathChar c = true)
    (slash : c ≠ '/') (dot : c ≠ '.') : (u.below path).target.getLast? = some c := by
  refine getLast?_target_withTarget u ?_ plain slash dot
  rw [List.getLast?_append, last, Option.some_or]

end Telemetry.Url
