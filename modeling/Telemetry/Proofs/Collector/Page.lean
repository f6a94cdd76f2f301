import Telemetry.Collector.Page
import Telemetry.Proofs.Delivery.Response
import Telemetry.Proofs.Metric.Plain
import Telemetry.Proofs.Store.AtWork
import Telemetry.Proofs.Text.Html

/-!
# The overview page cannot be forged

Names come from outside and may hold anything, also what looks like an item of the page.  Whatever
they hold, the page has one item for each reading, in order, and no other tags than its own; an item
gives the name, the kind and the value back (`lists_render`).  So two snapshots have one page
exactly if they hold the same readings, the sign of zero aside (`render_eq_iff`).
-/

namespace Telemetry.Collector

namespace Page

open Html

variable {r s : Reading} {snapshot other : List Reading}

/-! ### Items -/

/-- What stands between the tags of an item. -/
def text (r : Reading) : String :=
  Html.escape r.name ++ " (" ++ r.kind.word ++ "): " ++ Html.escape r.toPlain

/-- What an item says. -/
def label (r : Reading) : String := r.name ++ " (" ++ r.kind.word ++ "): " ++ r.toPlain

theorem item_eq (r : Reading) : item r = "<li>" ++ text r ++ "</li>" := by
  simp only [item, text, String.append_assoc]

theorem text_eq (r : Reading) : text r = Html.escape (label r) := by
  have open_ : escapeChars " (".toList = " (".toList := by decide
  have close : escapeChars "): ".toList = "): ".toList := by decide
  have kind : escapeChars r.kind.word.toList = r.kind.word.toList := by
    cases r.kind <;> decide
  apply String.toList_injective
  simp only [text, label, Html.escape, String.toList_append, String.toList_ofList,
    escapeChars_append, open_, close, kind]

theorem unescape_text (r : Reading) : Html.unescape (text r) = label r := by
  rw [text_eq, Html.unescape_escape]

/-! ### Labels -/

/-- What comes before the last occurrence of a character, and what comes after it. -/
def cutLast (c : Char) (cs : List Char) : List Char × List Char :=
  ((cs.reverse.dropWhile (· ≠ c)).tail.reverse, (cs.reverse.takeWhile (· ≠ c)).reverse)

theorem cutLast_append {c : Char} {before after : List Char} (last : c ∉ after) :
    cutLast c (before ++ c :: after) = (before, after) := by
  have reversed : (before ++ c :: after).reverse = after.reverse ++ c :: before.reverse := by simp
  have others : ∀ d ∈ after.reverse, decide (d ≠ c) = true := by
    intro d hd
    have ne : d ≠ c := fun same => last (same ▸ List.mem_reverse.1 hd)
    exact decide_eq_true ne
  rw [cutLast, reversed, List.takeWhile_append_of_pos others, List.dropWhile_append_of_pos others]
  simp

/-- The name, the kind and the value in a label.  Neither a kind nor a value has a blank, so they are
found from its end. -/
def said (label : String) : String × String × String :=
  let (front, value) := cutLast ' ' label.toList
  let (name, kind) := cutLast ' ' front
  (String.ofList name, String.ofList kind, String.ofList value)

/-- **A label gives back what it was made of**, whatever the name holds. -/
theorem said_label (r : Reading) :
    said (label r) = (r.name, "(" ++ r.kind.word ++ "):", r.toPlain) := by
  have spelled : (label r).toList
      = (r.name.toList ++ ' ' :: ("(" ++ r.kind.word ++ "):").toList) ++ ' ' :: r.toPlain.toList := by
    simp [label]
  have noBlank : ' ' ∉ ("(" ++ r.kind.word ++ "):").toList := by
    cases r.kind <;> decide
  rw [said, spelled, cutLast_append r.noBlank_toPlain]
  dsimp only
  rw [cutLast_append noBlank]
  simp only [String.ofList_toList]

theorem text_eq_iff : text r = text s ↔ r.plain = s.plain := by
  constructor
  · intro same
    have labels : label r = label s := by rw [← unescape_text, same, unescape_text]
    have parts := said_label r
    rw [labels, said_label, Prod.mk.injEq, Prod.mk.injEq] at parts
    obtain ⟨name, kind, value⟩ := parts
    refine Reading.plain_eq_iff.2 ⟨name.symm, ?_, value.symm⟩
    cases hr : r.kind <;> cases hs : s.kind
    · rfl
    · rw [hr, hs] at kind; cases kind
    · rw [hr, hs] at kind; cases kind
    · rfl
  · intro same
    obtain ⟨name, kind, value⟩ := Reading.plain_eq_iff.1 same
    rw [text, text, name, kind, value]

/-! ### The page -/

/-- The texts of the items of a page. -/
def items (page : String) : List String :=
  (within "li".toList (tokens page.toList)).map String.ofList

/-- Markup that has the items of a snapshot and no other tags. -/
structure Shows (toks : List Token) (snapshot : List Reading) : Prop where
  tags : toks.filterMap Token.tag? = snapshot.flatMap fun _ => ["li", "/li"]
  items : ∀ rest, within "li".toList (toks ++ rest)
    = (snapshot.map fun r => (text r).toList) ++ within "li".toList rest

theorem shows_nil : Shows [] [] := ⟨rfl, fun _ => rfl⟩

theorem Shows.append {toks more : List Token} (first : Shows toks snapshot)
    (second : Shows more other) : Shows (toks ++ more) (snapshot ++ other) where
  tags := by rw [List.filterMap_append, first.tags, second.tags, List.flatMap_append]
  items rest := by
    rw [List.append_assoc, first.items, second.items, List.map_append, List.append_assoc]

theorem shows_lineBreak : Shows [.char '\n'] [] := ⟨rfl, fun _ => rfl⟩

/-- **An item is read as an item**, and leaves no tag open. -/
theorem scan_item (r : Reading) :
    ∃ toks, scan none (item r).toList = (toks, none) ∧ Shows toks [r] := by
  have escaped : (text r).toList = escapeChars (label r).toList := by
    rw [text_eq, Html.escape, String.toList_ofList]
  have opens : scan none "<li>".toList = ([.tag "li".toList], none) := by decide
  have closes : scan none "</li>".toList = ([.tag "/li".toList], none) := by decide
  refine ⟨.tag "li".toList :: ((text r).toList.map .char ++ [.tag "/li".toList]), ?_, ?_, ?_⟩
  · rw [item_eq, String.toList_append, String.toList_append, List.append_assoc,
      scan_append_of_closed opens, escaped, scan_append_of_closed (scan_escapeChars _), closes]
    rfl
  · have plain : ((text r).toList.map Token.char).filterMap Token.tag? = [] := by
      rw [List.filterMap_map]
      exact List.filterMap_eq_nil_iff.2 fun _ _ => rfl
    have start : Token.tag? (.tag "li".toList) = some "li" := rfl
    rw [List.filterMap_cons_some start, List.filterMap_append, plain]
    rfl
  · intro rest
    have other : Token.tag "li".toList ∉ (text r).toList.map Token.char ++ [.tag "/li".toList] := by
      intro h
      rcases List.mem_append.1 h with h | h
      · obtain ⟨c, -, hc⟩ := List.mem_map.1 h
        cases hc
      · exact absurd h (by decide)
    have said : leading ((text r).toList.map Token.char ++ [.tag "/li".toList] ++ rest)
        = (text r).toList := by
      rw [List.append_assoc, List.singleton_append, leading_chars]
    rw [List.cons_append, within, if_pos rfl, within_append other, said]
    rfl

/-- The items of a snapshot with a line break between any two of them. -/
theorem scan_items (snapshot : List Reading) :
    ∃ toks, scan none (['\n'].intercalate (snapshot.map fun r => (item r).toList)) = (toks, none) ∧
      Shows toks snapshot := by
  induction snapshot with
  | nil => exact ⟨[], rfl, shows_nil⟩
  | cons r later ih =>
    obtain ⟨first, read, shown⟩ := scan_item r
    cases later with
    | nil =>
      rw [List.map_singleton, List.intercalate_singleton]
      exact ⟨first, read, shown⟩
    | cons next later =>
      obtain ⟨rest, read', shown'⟩ := ih
      have lineBreak : scan none ['\n'] = ([.char '\n'], none) := by decide
      refine ⟨first ++ ([.char '\n'] ++ rest), ?_, shown.append (shows_lineBreak.append shown')⟩
      rw [List.map_cons] at read'
      rw [List.map_cons, List.map_cons, List.intercalate_cons_cons, List.append_assoc,
        scan_append_of_closed read, scan_append_of_closed lineBreak, read']

/-- What a page says of a snapshot. -/
structure Lists (page : String) (snapshot : List Reading) : Prop where
  /-- There is an item for each reading, and there are no other tags than those of the page. -/
  tags : Html.tags page.toList
    = ["!DOCTYPE html", "html", "head", "title", "/title", "/head", "body", "h1", "/h1", "ul"]
      ++ (snapshot.flatMap fun _ => ["li", "/li"]) ++ ["/ul", "/body", "/html"]
  /-- The items are those of the readings, in order. -/
  items : items page = snapshot.map text
  /-- No name has a meaning in markup as it is written. -/
  inert : ∀ r ∈ snapshot, Inert (Html.escape r.name).toList
  /-- Each item gives back the name, the kind and the value of its reading. -/
  said : ((Page.items page).map fun item => said (Html.unescape item))
    = snapshot.map fun r => (r.name, "(" ++ r.kind.word ++ "):", r.toPlain)

/-- **The page of a snapshot lists it.** -/
theorem lists_render (snapshot : List Reading) : Lists (render snapshot) snapshot := by
  obtain ⟨toks, read, shown⟩ := scan_items snapshot
  have opens : scan none opening.toList = ((scan none opening.toList).1, none) := by decide
  have whole : tokens (render snapshot).toList
      = (scan none opening.toList).1 ++ (toks ++ (scan none closing.toList).1) := by
    have joined : (String.intercalate "\n" (snapshot.map item)).toList
        = ['\n'].intercalate (snapshot.map fun r => (item r).toList) := by
      rw [String.toList_intercalate, List.map_map]
      rfl
    rw [tokens, render, String.toList_append, String.toList_append, joined, List.append_assoc,
      scan_append_of_closed opens, scan_append_of_closed read]
  have listed : items (render snapshot) = snapshot.map text := by
    have before : Token.tag "li".toList ∉ (scan none opening.toList).1 := by decide
    have after : within "li".toList (scan none closing.toList).1 = [] := by decide
    rw [items, whole, within_append before, shown.items, after, List.append_nil, List.map_map]
    exact List.map_congr_left fun r _ => String.ofList_toList
  refine ⟨?_, listed, ?_, ?_⟩
  · have before : (scan none opening.toList).1.filterMap Token.tag?
        = ["!DOCTYPE html", "html", "head", "title", "/title", "/head", "body", "h1", "/h1", "ul"] := by
      decide
    have after : (scan none closing.toList).1.filterMap Token.tag? = ["/ul", "/body", "/html"] := by
      decide
    rw [Html.tags, whole, List.filterMap_append, List.filterMap_append, before, shown.tags, after,
      List.append_assoc]
  · intro r _
    rw [Html.escape, String.toList_ofList]
    exact inert_escapeChars _
  · rw [listed, List.map_map]
    refine List.map_congr_left fun r _ => ?_
    show Page.said (Html.unescape (text r)) = _
    rw [unescape_text, said_label]

/-- Lists agree in one way exactly if they agree in another, where their elements do. -/
theorem map_eq_map_iff {α β γ : Type} {f : α → β} {g : α → γ} (same : ∀ a b, f a = f b ↔ g a = g b)
    {l k : List α} : l.map f = k.map f ↔ l.map g = k.map g := by
  induction l generalizing k with
  | nil => cases k <;> simp
  | cons a l ih => cases k <;> simp [same, ih]

/-- **Two snapshots have one page exactly if they hold the same readings**, the sign of zero aside. -/
theorem render_eq_iff :
    render snapshot = render other ↔ snapshot.map Reading.plain = other.map Reading.plain := by
  rw [← map_eq_map_iff fun r s => (text_eq_iff : text r = text s ↔ _)]
  constructor
  · intro same
    rw [← (lists_render snapshot).items, same, (lists_render other).items]
  · intro same
    have items (l : List Reading) : l.map item = (l.map text).map ("<li>" ++ · ++ "</li>") := by
      rw [List.map_map]
      exact List.map_congr_left fun r _ => item_eq r
    rw [render, render, items, items, same]

end Page

/-! ### The response -/

open Dialogue Http
open Store (AtWork)

/-- The overview is the page of what the store lists. -/
theorem respond_overview (server : Server) {request : Request}
    (leads : Route.ofPath? request.path = some .overview) (method : request.method = "GET")
    (store : AtWork) :
    (run AtWork.answer (respond server request) store).1
      = (Response.html (Page.render store.contents.snapshot)).encoded request := by
  have listed := store.answer_getAll
  have handled : (run AtWork.answer (overview) store).1
      = some (.html (Page.render store.contents.snapshot)) := by
    rw [overview, run_bind]
    have asked : (run AtWork.answer (Ingest.ask .getAll) store).1
        = .value store.contents.snapshot := by
      show (store.answer .getAll).1.mapFailure Ingest.Error.ofStore = _
      rw [listed]
      rfl
    rw [asked]
    rfl
  rw [respond_eq, handle_route leads method, run_bind]
  show sent request (run AtWork.answer overview store).1 = _
  rw [handled]
  rfl

/-- **The overview cannot be forged.**  It is the page of what the store lists.  The page of any
snapshot lists it, whatever the names hold, and two snapshots have one page exactly if they hold the
same readings, the sign of zero aside. -/
theorem overview_unforgeable (server : Server) {request : Request}
    (leads : Route.ofPath? request.path = some .overview) (method : request.method = "GET")
    (store : AtWork) :
    (∃ snapshot, (store.answer .getAll).1 = .value snapshot ∧
      (run AtWork.answer (respond server request) store).1
        = (Response.html (Page.render snapshot)).encoded request) ∧
    (∀ snapshot, Page.Lists (Page.render snapshot) snapshot) ∧
    ∀ snapshot other, Response.html (Page.render snapshot) = Response.html (Page.render other)
      ↔ snapshot.map Reading.plain = other.map Reading.plain := by
  refine ⟨⟨_, store.answer_getAll, respond_overview server leads method store⟩, Page.lists_render,
    fun snapshot other => ?_⟩
  rw [← Page.render_eq_iff]
  refine ⟨fun same => ?_, congrArg Response.html⟩
  have bodies : Utf8.encode (Page.render snapshot) = Utf8.encode (Page.render other) :=
    congrArg Response.body same
  have decoded := Utf8.decode?_encode (Page.render snapshot)
  rw [bodies, Utf8.decode?_encode] at decoded
  exact (Option.some.inj decoded).symm

/-- A name that ends one item and begins another. -/
def forgedName : String := "a (gauge): 1</li>\n<li>&lt;b"

theorem overview_unforgeable_of_forgedName :
    let server : Server := ⟨.ofKey none, .continue⟩
    let request : Request := ⟨"GET", "/", [], [], "localhost"⟩
    let store : AtWork := .memory ⟨Contents.empty.setGauge forgedName .zero, ()⟩
    Route.ofPath? request.path = some .overview ∧ request.method = "GET" ∧
      (∃ snapshot, (store.answer .getAll).1 = .value snapshot ∧
        (run AtWork.answer (respond server request) store).1
          = (Response.html (Page.render snapshot)).encoded request) ∧
      Page.Lists (Page.render [.gauge forgedName .zero]) [.gauge forgedName .zero] := by
  intro server request store
  have leads : Route.ofPath? request.path = some .overview := by decide
  obtain ⟨answered, lists, -⟩ := overview_unforgeable server leads rfl store
  exact ⟨leads, rfl, answered, lists _⟩

end Telemetry.Collector
