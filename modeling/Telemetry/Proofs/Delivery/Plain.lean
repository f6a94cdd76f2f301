import Telemetry.Proofs.Delivery.Response
import Telemetry.Proofs.Text.Numeral

/-!
# Records in a path

In the plain form a record is the path of a request.  Whatever characters its name holds, the
request arrives with the kind, the name and the value of the record, or it leads nowhere
(`ofPath?_plainRequest`): a name with a slash in it makes too many parts, and a name of dots makes
too few.
-/

namespace Telemetry

/-! ### Segments -/

namespace Url

open Numeral (IsNumeric)

/-- A text that stands for itself as a segment of a path. -/
structure IsSegment (cs : List Char) : Prop where
  chars : ∀ c ∈ cs, isPathChar c = true ∧ c ≠ '/' ∧ c ≠ '%'
  undotted : cs ≠ ['.'] ∧ cs ≠ ['.', '.']

theorem IsSegment.noSlash {cs : List Char} (h : IsSegment cs) : '/' ∉ cs :=
  fun hc => (h.chars '/' hc).2.1 rfl

theorem isPathChar_of_numeric {c : Char} (h : IsNumeric c) :
    isPathChar c = true ∧ c ≠ '/' ∧ c ≠ '%' := by
  rcases h with digit | sign
  · refine Text.forall_digit digit ?_
    decide
  · have all : ∀ c ∈ ['.', 'e', '+', '-'], isPathChar c = true ∧ c ≠ '/' ∧ c ≠ '%' :=
      forall_mem_of_all (by decide)
    exact all c sign

/-- A text of such characters that does not start with a dot is a segment. -/
theorem isSegment_of_numeric {cs : List Char} (numeric : ∀ c ∈ cs, IsNumeric c)
    (starts : Json.StartsNumber cs) : IsSegment cs where
  chars c hc := isPathChar_of_numeric (numeric c hc)
  undotted := by
    obtain ⟨c, rest, rfl, first⟩ := starts
    have undotted : c ≠ '.' := by
      rintro rfl
      rcases first with h | h
      · cases h
      · cases h
    exact ⟨fun h => undotted (List.cons.inj h).1, fun h => undotted (List.cons.inj h).1⟩

theorem isSegment_ofInt (n : Int) : IsSegment (Text.ofInt n).toList :=
  isSegment_of_numeric (Numeral.numeric_ofInt n) (Json.startsNumber_int n)

theorem isSegment_toText (x : Double) : IsSegment x.toText.toList := by
  cases x with
  | nan => exact ⟨forall_mem_of_all (by decide), by decide⟩
  | infinity negative =>
    cases negative with
    | false => exact ⟨forall_mem_of_all (by decide), by decide⟩
    | true => exact ⟨forall_mem_of_all (by decide), by decide⟩
  | finite =>
    exact isSegment_of_numeric (Numeral.numeric_toText rfl)
      (Json.startsNumber_double Double.Layout.standard rfl)

/-- The path of some segments. -/
theorem forall_mem_intercalate {p : Char → Prop} (slash : p '/') {parts : List (List Char)}
    (h : ∀ part ∈ parts, ∀ c ∈ part, p c) : ∀ c ∈ ['/'].intercalate parts, p c := by
  induction parts with
  | nil => nofun
  | cons part rest ih =>
    have first := h part List.mem_cons_self
    cases rest with
    | nil =>
      rw [List.intercalate_singleton]
      exact first
    | cons next more =>
      intro c hc
      rw [List.intercalate_cons_cons] at hc
      rcases List.mem_append.1 hc with hc | hc
      · rcases List.mem_append.1 hc with hc | hc
        · exact first c hc
        · exact List.mem_singleton.1 hc ▸ slash
      · exact ih (fun part hpart => h part (List.mem_cons_of_mem _ hpart)) c hc

end Url

/-! ### The path of a record -/

/-- The word of a kind is in lower case. -/
theorem Kind.ofWord?_lower_word (kind : Kind) : ofWord? (Text.lower kind.word) = some kind := by
  cases kind <;> decide

namespace Agent.Client

open Collector

/-- The segments of a path as the collector gets them, unless dots have gone. -/
def plainSegments (kind : Kind) (id value : List Char) : List (List Char) :=
  [[], "update".toList, kind.word.toList, id, value]

/-- What is left of these segments where the name is one dot or two. -/
inductive Dotted (kind : Kind) (value : List Char) : List (List Char) → Prop
  | dot : Dotted kind value [[], "update".toList, kind.word.toList, value]
  | dots : Dotted kind value [[], "update".toList, value]

theorem Dotted.among {kind : Kind} {value : List Char} {parts : List (List Char)}
    (h : Dotted kind value parts) (id : List Char) :
    ∀ part ∈ parts, part ∈ plainSegments kind id value := by
  intro part hpart
  cases h with
  | dot | dots =>
    simp only [plainSegments, List.mem_cons, List.not_mem_nil, or_false] at hpart ⊢
    tauto

theorem toList_plainPath {m : Metric} {kind : Kind} (type : m.type = kind.word) :
    (plainPath m).toList
      = ['/'].intercalate (plainSegments kind (Percent.encode m.id).toList (plainValue m).toList) := by
  have word : Percent.encode kind.word = kind.word := by cases kind <;> decide
  rw [plainPath, type, word]
  cases kind <;> simp [plainSegments, List.intercalate, Kind.word]

theorem isSegment_plainValue {m : Metric} (said : m.delta ≠ none ∨ m.value ≠ none) :
    Url.IsSegment (plainValue m).toList := by
  obtain ⟨id, type, delta, value⟩ := m
  cases delta with
  | some n => exact Url.isSegment_ofInt n
  | none =>
    cases value with
    | some x => exact Url.isSegment_toText x
    | none => exact absurd said (by simp)

theorem plainValue_ne_nil {m : Metric} (said : m.delta ≠ none ∨ m.value ≠ none) :
    (plainValue m).toList ≠ [] := by
  have starts {cs : List Char} (h : Json.StartsNumber cs) : cs ≠ [] := by
    obtain ⟨c, rest, rfl, -⟩ := h
    exact List.cons_ne_nil c rest
  have text (x : Double) : x.toText.toList ≠ [] := by
    cases x with
    | nan => decide
    | infinity negative => cases negative <;> decide
    | finite => exact starts (Json.startsNumber_double Double.Layout.standard rfl)
  obtain ⟨id, type, delta, value⟩ := m
  cases delta with
  | some n => exact starts (Json.startsNumber_int n)
  | none =>
    cases value with
    | some x => exact text x
    | none => exact absurd said (by simp)

/-- The name of a record has no slash where it stands in the path. -/
theorem mem_encode {s : String} {c : Char} (h : c ∈ (Percent.encode s).toList) :
    Url.isPathChar c = true ∧ c ≠ '/' := by
  rw [Percent.encode, String.toList_ofList] at h
  refine Percent.mem_encodeBytes (p := fun c => Url.isPathChar c = true ∧ c ≠ '/') (by decide)
    (by decide) ?_ c h
  have all : ∀ n < 256, Percent.isUnreserved (UInt8.ofNat n) = true →
      Url.isPathChar (Char.ofNat n) = true ∧ Char.ofNat n ≠ '/' := by
    decide +kernel
  intro b unreserved
  have same : UInt8.ofNat b.toNat = b := UInt8.ofNat_toNat
  exact all b.toNat b.toNat_lt (same.symm ▸ unreserved)

/-- A name that is not taken for dots, where dots are. -/
def Undotted (u : Url) (id : List Char) : Prop :=
  (u.scheme ≠ "" || u.located) = true → id ≠ ['.'] ∧ id ≠ ['.', '.']

/-- **What is left of the path of a record**: all of it, or too little if the name is dots. -/
theorem sent_plainPath (u : Url) (kind : Kind) {id value : List Char} (noSlash : '/' ∉ id)
    (segment : Url.IsSegment value) :
    ∃ parts, u.sent (['/'].intercalate (plainSegments kind id value)) = ['/'].intercalate parts ∧
      (Undotted u id ∧ parts = plainSegments kind id value ∨
        ¬ Undotted u id ∧ Dotted kind value parts) := by
  have noSlashes : ∀ part ∈ plainSegments kind id value, '/' ∉ part := by
    intro part hpart
    simp only [plainSegments, List.mem_cons, List.not_mem_nil, or_false] at hpart
    rcases hpart with rfl | rfl | rfl | rfl | rfl
    · decide
    · decide
    · cases kind <;> decide
    · exact noSlash
    · exact segment.noSlash
  obtain ⟨dot, dots⟩ := segment.undotted
  have words : kind.word.toList ≠ ['.'] ∧ kind.word.toList ≠ ['.', '.'] := by
    cases kind <;> decide
  unfold Url.sent
  split
  next resolves =>
    rw [Url.resolveDots, Url.segments,
      List.splitOn_intercalate '/' noSlashes (by simp [plainSegments])]
    by_cases hdot : id = ['.']
    · refine ⟨_, ?_, .inr ⟨fun undotted => (undotted resolves).1 hdot, .dot⟩⟩
      simp [plainSegments, Url.resolveSegment, hdot, dot, dots, words]
    · by_cases hdots : id = ['.', '.']
      · refine ⟨_, ?_, .inr ⟨fun undotted => (undotted resolves).2 hdots, .dots⟩⟩
        simp [plainSegments, Url.resolveSegment, hdots, dot, dots, words]
      · refine ⟨_, ?_, .inl ⟨fun _ => ⟨hdot, hdots⟩, rfl⟩⟩
        simp [plainSegments, Url.resolveSegment, hdot, hdots, dot, dots, words]
  next kept => exact ⟨_, rfl, .inl ⟨fun resolves => absurd resolves kept, rfl⟩⟩

/-- A path that has lost a segment leads nowhere. -/
theorem ofPath?_dotted {kind : Kind} {value : List Char} (segment : Url.IsSegment value)
    {parts : List (List Char)} (dotted : Dotted kind value parts) :
    Route.ofPath? (String.ofList (['/'].intercalate parts)) = none := by
  have words : '/' ∉ kind.word.toList := by cases kind <;> decide
  rw [Route.ofPath?, String.toList_ofList]
  cases dotted with
  | dot =>
    rw [List.splitOn_intercalate '/' (by simp [words, segment.noSlash]) (by simp)]
    rfl
  | dots =>
    rw [List.splitOn_intercalate '/' (by simp [segment.noSlash]) (by simp)]
    rfl

/-- **The whole path of a record leads to its update**, or nowhere if the name is empty or has a
slash in it. -/
theorem ofPath?_whole (kind : Kind) (id : String) {value : List Char} (nonempty : value ≠ [])
    (segment : Url.IsSegment value) :
    Route.ofPath? (String.ofList (['/'].intercalate (plainSegments kind id.toList value)))
      = if id ≠ "" ∧ '/' ∉ id.toList then some (.plainUpdate kind.word id (String.ofList value))
        else none := by
  have words : '/' ∉ kind.word.toList := by cases kind <;> decide
  have whole : ['/'].intercalate (plainSegments kind id.toList value)
      = [] ++ '/' :: ("update".toList ++ '/' :: (kind.word.toList ++ '/' :: (id.toList ++ '/'
        :: value))) := by
    simp [plainSegments, List.intercalate]
  have parts : (['/'].intercalate (plainSegments kind id.toList value)).splitOn '/'
      = [] :: "update".toList :: kind.word.toList :: (id.toList.splitOn '/' ++ [value]) := by
    rw [whole, List.splitOn_append_cons_self_of_not_mem (by decide),
      List.splitOn_append_cons_self_of_not_mem (by decide),
      List.splitOn_append_cons_self_of_not_mem words, List.splitOn_append_cons_self,
      List.splitOn_eq_singleton segment.noSlash]
  rw [Route.ofPath?, String.toList_ofList, parts]
  -- The name is one part if it has no slash, and otherwise there are too many.
  by_cases slash : '/' ∈ id.toList
  · rw [if_neg fun h => h.2 slash]
    obtain ⟨before, behind, hid, noSlash⟩ := List.eq_append_cons_of_mem slash
    rw [hid, List.splitOn_append_cons_self_of_not_mem noSlash]
    cases hmore : behind.splitOn '/' with
    | nil => exact absurd hmore (List.splitOn_ne_nil _ _)
    | cons second more =>
      cases more with
      | nil => rfl
      | cons => rfl
  · have texts : ([] :: "update".toList :: kind.word.toList :: (id.toList.splitOn '/' ++ [value])).map
        String.ofList = ["", "update", kind.word, id, String.ofList value] := by
      rw [List.splitOn_eq_singleton slash]
      simp
    have named : kind.word ≠ "" ∧ String.ofList value ≠ "" :=
      ⟨by cases kind <;> decide, by simpa using nonempty⟩
    rw [texts]
    by_cases hid : id = ""
    · rw [if_neg fun h => h.1 hid]
      exact if_neg (by simp [hid])
    · rw [if_pos ⟨hid, slash⟩]
      exact if_pos (by simp [hid, named])

/-- What is written with percent signs in the path of a record is read back. -/
theorem decode?_plainSegments {kind : Kind} {id : String} {value : List Char}
    (segment : Url.IsSegment value) :
    Percent.decode? (String.ofList
        (['/'].intercalate (plainSegments kind (Percent.encode id).toList value)))
      = some (String.ofList (['/'].intercalate (plainSegments kind id.toList value))) := by
  have whole (id : List Char) : ['/'].intercalate (plainSegments kind id value)
      = ['/'].intercalate [[], "update".toList, kind.word.toList, []] ++ (id ++ '/' :: value) := by
    simp [plainSegments, List.intercalate]
  have before : '%' ∉ ['/'].intercalate [[], "update".toList, kind.word.toList, []] := by
    cases kind <;> decide
  have behind : '%' ∉ '/' :: value := by
    intro h
    rcases List.mem_cons.1 h with h | h
    · cases h
    · exact (segment.chars '%' h).2.2 rfl
  rw [whole, whole]
  generalize ['/'].intercalate [[], "update".toList, kind.word.toList, []] = front at before
  have last := Percent.decodeBytes_append behind []
  rw [List.append_nil, Percent.decodeBytes, List.append_nil] at last
  have encoded := Utf8.decode?_encode (String.ofList (front ++ (id.toList ++ '/' :: value)))
  rw [Utf8.encode, String.toList_ofList, Utf8.encodeChars_append, Utf8.encodeChars_append]
    at encoded
  rw [Percent.decode?, String.toList_ofList, Percent.decodeBytes_append before, Percent.encode,
    String.toList_ofList, Percent.decodeBytes_encodeBytes, last, Utf8.encode, encoded]

/-- The path of a record may be sent as it is. -/
theorem isPathChar_plainSegments (kind : Kind) (id : String) {value : List Char}
    (segment : Url.IsSegment value) {parts : List (List Char)}
    (among : ∀ part ∈ parts, part ∈ plainSegments kind (Percent.encode id).toList value) :
    ∀ c ∈ ['/'].intercalate parts, Url.isPathChar c = true := by
  refine Url.forall_mem_intercalate (by decide) fun part hpart => ?_
  have hpart := among part hpart
  simp only [plainSegments, List.mem_cons, List.not_mem_nil, or_false] at hpart
  rcases hpart with rfl | rfl | rfl | rfl | rfl
  · nofun
  · exact forall_mem_of_all (by decide)
  · exact forall_mem_of_all (by cases kind <;> decide)
  · exact fun c hc => (mem_encode hc).1
  · exact fun c hc => (segment.chars c hc).1

/-- The path that is asked for, with all its segments or too few. -/
theorem path_plainRequest {client : Client} (root : client.url.IsRoot) {m : Metric} {kind : Kind}
    (type : m.type = kind.word) (segment : Url.IsSegment (plainValue m).toList) :
    ∃ parts, (client.plainRequest m).path = String.ofList (['/'].intercalate parts) ∧
      '?' ∉ ['/'].intercalate parts ∧
      (Undotted client.url (Percent.encode m.id).toList ∧
          parts = plainSegments kind (Percent.encode m.id).toList (plainValue m).toList ∨
        ¬ Undotted client.url (Percent.encode m.id).toList ∧
          Dotted kind (plainValue m).toList parts) := by
  obtain ⟨parts, sent, left⟩ := sent_plainPath client.url kind
    (fun h => (mem_encode h).2 rfl : '/' ∉ (Percent.encode m.id).toList) segment
  have among : ∀ part ∈ parts,
      part ∈ plainSegments kind (Percent.encode m.id).toList (plainValue m).toList := by
    rcases left with ⟨-, rfl⟩ | ⟨-, dotted⟩
    · exact fun _ h => h
    · exact dotted.among _
  have safe := isPathChar_plainSegments kind m.id segment among
  have whole := isPathChar_plainSegments kind m.id segment fun _ h => h
  have noQuery {cs : List Char} (h : ∀ c ∈ cs, Url.isPathChar c = true) : '?' ∉ cs :=
    fun hc => absurd (h '?' hc) (by decide)
  refine ⟨parts, ?_, noQuery safe, left⟩
  -- The path starts with one slash, and the client asks for what is behind it.
  have starts : ['/'].intercalate
      (plainSegments kind (Percent.encode m.id).toList (plainValue m).toList)
      = '/' :: ['/'].intercalate
          ["update".toList, kind.word.toList, (Percent.encode m.id).toList,
            (plainValue m).toList] := rfl
  have dropped : (plainPath m).toList.dropWhile (· = '/')
      = ['/'].intercalate ["update".toList, kind.word.toList, (Percent.encode m.id).toList,
          (plainValue m).toList] := by
    rw [toList_plainPath type, starts]
    rfl
  have nonempty : ['/'].intercalate parts ≠ [] := by
    rcases left with ⟨-, rfl⟩ | ⟨-, dotted⟩
    · nofun
    · cases dotted with
      | dot | dots => nofun
  have escaped : Url.escape Url.isPathChar (['/'].intercalate parts) = ['/'].intercalate parts :=
    Url.escape_eq_self safe
  rw [starts] at sent whole
  have target := Url.target_below root dropped
    (noQuery fun c hc => whole c (List.mem_cons_of_mem _ hc)) (by rw [sent, escaped]; exact nonempty)
  rw [sent, escaped] at target
  exact congrArg String.ofList target

/-- A name that arrives as one part of a path. -/
structure Routable (u : Url) (id : String) : Prop where
  named : id ≠ ""
  noSlash : '/' ∉ id.toList
  undotted : Undotted u id.toList

instance (u : Url) (id : String) : Decidable (Routable u id) :=
  decidable_of_iff (id ≠ "" ∧ '/' ∉ id.toList ∧
      ((u.scheme ≠ "" || u.located) = true → id.toList ≠ ['.'] ∧ id.toList ≠ ['.', '.']))
    ⟨fun h => ⟨h.1, h.2.1, h.2.2⟩, fun h => ⟨h.named, h.noSlash, h.undotted⟩⟩

/-- A name is taken for dots exactly if it is written as dots. -/
theorem undotted_encode (u : Url) (id : String) :
    Undotted u (Percent.encode id).toList ↔ Undotted u id.toList := by
  have same (dots : String) (plain : Percent.encode dots = dots) :
      (Percent.encode id).toList = dots.toList ↔ id.toList = dots.toList := by
    rw [String.toList_inj, String.toList_inj]
    refine ⟨fun h => Percent.encode_injective (h.trans plain.symm), fun h => ?_⟩
    rw [h, plain]
  have one := same "." (by decide)
  have two := same ".." (by decide)
  exact imp_congr_right fun _ => and_congr (not_congr one) (not_congr two)

/-- **The request of a record leads to its update**, or nowhere if its name does not arrive as one
part of the path. -/
theorem ofPath?_plainRequest {client : Client} (root : client.url.IsRoot) {m : Metric} {kind : Kind}
    (type : m.type = kind.word) (said : m.delta ≠ none ∨ m.value ≠ none) :
    Route.ofPath? (client.plainRequest m).arrived.path
      = if Routable client.url m.id then some (.plainUpdate kind.word m.id (plainValue m))
        else none := by
  have segment := isSegment_plainValue said
  obtain ⟨parts, path, noQuery, ⟨undotted, rfl⟩ | ⟨taken, dotted⟩⟩ :=
    path_plainRequest root type segment
  · have arrived : (client.plainRequest m).arrived.path
        = String.ofList (['/'].intercalate
            (plainSegments kind m.id.toList (plainValue m).toList)) := by
      dsimp only [Http.Request.arrived]
      rw [path, String.toList_ofList, takeWhile_noQuery noQuery, decode?_plainSegments segment]
      rfl
    have leads := ofPath?_whole kind m.id (plainValue_ne_nil said) segment
    rw [String.ofList_toList] at leads
    have dots := (undotted_encode client.url m.id).1 undotted
    rw [arrived, leads]
    exact if_congr ⟨fun h => ⟨h.1, h.2, dots⟩, fun h => ⟨h.named, h.noSlash⟩⟩ rfl rfl
  · have value : ∀ c ∈ (plainValue m).toList, c ≠ '%' := fun c hc => (segment.chars c hc).2.2
    have words : ∀ c ∈ kind.word.toList, c ≠ '%' :=
      forall_mem_of_all (by cases kind <;> decide)
    have plain : '%' ∉ ['/'].intercalate parts := by
      refine fun h => Url.forall_mem_intercalate (p := (· ≠ '%')) (by decide) ?_ '%' h rfl
      cases dotted with
      | dot => simpa using ⟨words, value⟩
      | dots => simpa using value
    have dots : ¬ Routable client.url m.id :=
      fun h => taken ((undotted_encode client.url m.id).2 h.undotted)
    rw [Http.Request.arrived_path path noQuery plain, ofPath?_dotted segment dotted, if_neg dots]

end Agent.Client
end Telemetry
