import Telemetry.Proofs.Delivery.Response

/-!
# Unsigned bodies are never looked at

A collector with a key compares the signature of a body with its code before it does anything else.
If they differ, neither the body nor the store has any part in the response, which is the same for
every body that may come with these headers; if not, the request is handled as if there were no
key, and a good response is signed (`unsigned_never_looked_at`).
-/

namespace Telemetry

theorem Guard.verify_of_enabled {guard : Guard} (enabled : guard.enabled = true) {s : String}
    (nonempty : s ≠ "") (body : Bytes) :
    guard.verify body (some s) =
      if normal s = guard.code body then .accepted
      else if (normal s).toList.all Text.isAscii then .refused else .incomparable := by
  unfold verify
  rw [if_neg (by simp [enabled])]
  dsimp only
  rw [if_neg nonempty]
  cases ascii : (normal s).toList.all Text.isAscii with
  | true => simp
  | false =>
    -- A code is of ASCII, so that the order of the two questions makes no difference.
    have differs : normal s ≠ guard.code body := by
      intro same
      rw [same, guard.isAscii_code body] at ascii
      cases ascii
    simp [differs]

namespace Collector

open Http

variable {guard : Guard} {request : Request}

/-- A request carries the code of its body, in the form in which signatures are compared. -/
def Signed (guard : Guard) (request : Request) : Prop :=
  ∃ signature, request.headers.value? signatureHeader = some signature ∧
    Guard.normal signature = guard.code request.body

instance : Decidable (Signed guard request) :=
  match given : request.headers.value? signatureHeader with
  | none => isFalse (by simp [Signed, given])
  | some signature =>
      decidable_of_iff (Guard.normal signature = guard.code request.body) (by simp [Signed, given])

/-- A request is signed exactly if its header is the code of the body but for the case of letters
and for blanks around it. -/
theorem signed_iff : Signed guard request ↔
    ∃ signature, request.headers.value? signatureHeader = some signature ∧
      Guard.IsVariant signature (guard.code request.body) :=
  exists_congr fun _ => and_congr_right fun _ => Guard.normal_eq_code_iff

/-! ### The check -/

/-- The answer to a request that does not carry the code of its body, by its header. -/
def turnedDown : Option String → Option Response
  | none => some (.detail 400 ("Missing " ++ signatureHeader ++ " header"))
  | some signature =>
      if signature = "" then some (.detail 400 ("Missing " ++ signatureHeader ++ " header"))
      else if (Guard.normal signature).toList.all Text.isAscii then
        some (.detail 400 ("Invalid " ++ signatureHeader ++ " signature"))
      else none

theorem checkSignature_of_disabled (disabled : guard.enabled = false) :
    checkSignature guard request = .ok () := by
  rw [checkSignature, if_pos (by simp [disabled])]

theorem checkSignature_of_given (enabled : guard.enabled = true) {s : String}
    (given : request.headers.value? signatureHeader = some s) :
    checkSignature guard request =
      if s ≠ "" ∧ Guard.normal s = guard.code request.body then .ok ()
      else .error (turnedDown (some s)) := by
  rw [checkSignature, if_neg (by simp [enabled]), given]
  split
  next h => cases h
  next h =>
    cases h
    rw [if_neg (by simp)]
    rfl
  next signature nonempty h =>
    cases h
    have nonempty : s ≠ "" := nonempty
    rw [Guard.verify_of_enabled enabled nonempty]
    by_cases same : Guard.normal s = guard.code request.body
    · rw [if_pos same, if_pos ⟨nonempty, same⟩]
    · have refused : ¬ (s ≠ "" ∧ Guard.normal s = guard.code request.body) := fun h => same h.2
      rw [if_neg same, if_neg refused, turnedDown, if_neg nonempty]
      cases (Guard.normal s).toList.all Text.isAscii with
      | true => rfl
      | false => rfl

theorem checkSignature_of_signed (signed : Signed guard request) :
    checkSignature guard request = .ok () := by
  obtain ⟨signature, given, same⟩ := signed
  cases enabled : guard.enabled with
  | false => exact checkSignature_of_disabled enabled
  | true =>
    have nonempty : signature ≠ "" := by
      rintro rfl
      exact guard.code_ne_empty request.body same.symm
    rw [checkSignature_of_given enabled given, if_pos ⟨nonempty, same⟩]

theorem checkSignature_of_unsigned (enabled : guard.enabled = true)
    (unsigned : ¬ Signed guard request) :
    checkSignature guard request
      = .error (turnedDown (request.headers.value? signatureHeader)) := by
  cases given : request.headers.value? signatureHeader with
  | none =>
    rw [checkSignature, if_neg (by simp [enabled]), given]
    rfl
  | some signature =>
    have differs : ¬ (signature ≠ "" ∧ Guard.normal signature = guard.code request.body) :=
      fun h => unsigned ⟨signature, given, h.2⟩
    rw [checkSignature_of_given enabled given, if_neg differs]

/-! ### What comes after the check -/

/-- The same collector without a key. -/
def Server.keyless (server : Server) : Server := { server with guard := ⟨[]⟩ }

/-- A good response with its signature. -/
def countersigned (guard : Guard) (response : Response) : Response :=
  if response.status = 200 then
    response.withHeader (Text.lower signatureHeader) (guard.code response.body)
  else response

variable {server : Server}

theorem payload_of_unsigned (enabled : guard.enabled = true) (unsigned : ¬ Signed guard request) :
    payload guard request = .error (turnedDown (request.headers.value? signatureHeader)) := by
  rw [payload, checkSignature_of_unsigned enabled unsigned]
  rfl

theorem payload_of_signed (signed : Signed guard request) :
    payload guard request = payload ⟨[]⟩ request := by
  rw [payload, payload, checkSignature_of_signed signed, checkSignature_of_disabled rfl]

/-- Without a key only a body that is not decompressed is refused. -/
theorem refusal_of_keyless {refusal : Option Response}
    (refused : payload ⟨[]⟩ request = .error refusal) :
    refusal = some (.detail 400 "Invalid gzip body") := by
  rw [payload, checkSignature_of_disabled rfl] at refused
  dsimp only [bind, Except.bind] at refused
  split at refused
  · split at refused
    · cases refused
    · exact (Except.error.inj refused).symm
  · cases refused

theorem signed_of_enabled (enabled : guard.enabled = true) (body : Json) :
    signed guard body = countersigned guard (signed ⟨[]⟩ body) := by
  have good : (Response.json 200 body).status = 200 := rfl
  simp only [signed, Guard.sign, enabled, if_true]
  rfl

theorem signedReading?_of_enabled (enabled : guard.enabled = true) (r : Reading) :
    signedReading? guard r = (signedReading? ⟨[]⟩ r).map (countersigned guard) := by
  cases r with
  | gauge name value =>
    unfold signedReading?
    dsimp only
    split
    next => rw [signed_of_enabled enabled]; rfl
    next => rfl
  | counter name amount => exact congrArg some (signed_of_enabled enabled _)

/-- What a collector without a key does, with a signature added to a good response. -/
def withSignature (guard : Guard) (handling : Handling) : Handling :=
  handling >>= fun response => pure (response.map (countersigned guard))

theorem bind_eq_withSignature {α : Type} {d : Ingest.Doing α} {f g : α → Handling}
    (same : ∀ a, f a = withSignature guard (g a)) :
    (d >>= f) = withSignature guard (d >>= g) := by
  rw [withSignature, Dialogue.bind_assoc]
  exact congrArg (d >>= ·) (funext same)

variable (enabled : server.guard.enabled = true) (body : Bytes)
include enabled

theorem update_of_enabled :
    update server body = withSignature server.guard (update server.keyless body) := by
  unfold update
  split
  next => rfl
  next m _ =>
    refine bind_eq_withSignature fun outcome => ?_
    cases outcome with
    | value r => exact congrArg Dialogue.done (signedReading?_of_enabled enabled r)
    | failure e => cases e <;> rfl
    | cancelled => rfl

theorem updates_of_enabled :
    updates server body = withSignature server.guard (updates server.keyless body) := by
  unfold updates
  split
  next => rfl
  next batch _ =>
    refine bind_eq_withSignature fun outcome => ?_
    cases outcome with
    | value batch => exact congrArg (Dialogue.done ∘ some) (signed_of_enabled enabled _)
    | failure e => cases e <;> rfl
    | cancelled => rfl

theorem read_of_enabled :
    read server body = withSignature server.guard (read server.keyless body) := by
  unfold read
  split
  next => rfl
  next id type _ =>
    split
    next => rfl
    next =>
      refine bind_eq_withSignature fun outcome => ?_
      cases outcome with
      | value found =>
        cases found with
        | none => rfl
        | some r => exact congrArg Dialogue.done (signedReading?_of_enabled enabled r)
      | failure e => cases e <;> rfl
      | cancelled => rfl

omit enabled

/-- The routes on which bodies are checked. -/
def Route.IsJson (route : Route) : Prop := route = .update ∨ route = .updates ∨ route = .read

/-- On such a route a body is checked before it is read, and the key matters to the reader only
for the signature of its response. -/
theorem exists_reader_of_isJson {route : Route} (json : route.IsJson) :
    ∃ reader : Server → Bytes → Handling,
      (∀ server request, onRoute server request route
        = withPayload server request (reader server)) ∧
      ∀ server : Server, server.guard.enabled = true → ∀ body,
        reader server body = withSignature server.guard (reader server.keyless body) := by
  obtain rfl | rfl | rfl := json
  · exact ⟨update, fun _ _ => rfl, fun _ => update_of_enabled⟩
  · exact ⟨updates, fun _ _ => rfl, fun _ => updates_of_enabled⟩
  · exact ⟨read, fun _ _ => rfl, fun _ => read_of_enabled⟩

theorem Route.IsJson.method_eq {route : Route} (json : route.IsJson) : route.method = "POST" := by
  obtain rfl | rfl | rfl := json <;> rfl

/-- Responses are sent according to the headers of a request. -/
theorem sent_with_body (request : Request) (body : Bytes) (response : Option Response) :
    sent { request with body } response = sent request response := by
  cases response <;> rfl

/-- **Unsigned bodies are never looked at**: all bodies that are not signed get one response, and
the store is not asked for it.  A request with a variant of the code of its body is handled as if
there were no key, and a good response is signed. -/
theorem unsigned_never_looked_at {server : Server} (enabled : server.guard.enabled = true)
    {request : Request} {route : Route} (leads : Route.ofPath? request.path = some route)
    (json : route.IsJson) (method : request.method = "POST") :
    (∃ response, ∀ body, ¬ Signed server.guard { request with body } →
      respond server { request with body } = .done response) ∧
    ((∃ signature, request.headers.value? signatureHeader = some signature ∧
        Guard.IsVariant signature (server.guard.code request.body)) →
      respond server.keyless request
          = (handle server.keyless request >>= fun response => pure (sent request response)) ∧
      respond server request
          = withSignature server.guard (handle server.keyless request) >>= fun response =>
              pure (sent request response)) := by
  obtain ⟨reader, checked, keyed⟩ := exists_reader_of_isJson json
  have method : request.method = route.method := method.trans json.method_eq.symm
  constructor
  · refine ⟨sent request (turnedDown (request.headers.value? signatureHeader)), ?_⟩
    intro body unsigned
    have refused : handle server { request with body }
        = .done (turnedDown (request.headers.value? signatureHeader)) := by
      have leads : Route.ofPath? { request with body }.path = some route := leads
      rw [handle_route leads method, checked, withPayload, payload_of_unsigned enabled unsigned]
      rfl
    rw [respond_eq, refused]
    exact congrArg Dialogue.done (sent_with_body request body _)
  · intro variant
    have signed : Signed server.guard request := signed_iff.2 variant
    have same : handle server request
        = withSignature server.guard (handle server.keyless request) := by
      have no_key : server.keyless.guard = ⟨[]⟩ := rfl
      rw [handle_route leads method, handle_route leads method, checked, checked, withPayload,
        withPayload, payload_of_signed signed, no_key]
      cases checked : payload ⟨[]⟩ request with
      | error refusal =>
        rw [refusal_of_keyless checked]
        rfl
      | ok body => exact keyed server enabled body
    exact ⟨respond_eq _ _, by rw [respond_eq, same]⟩

/-- A single record with the code of its body. -/
def codedRecord (guard : Guard) : Request where
  method := "POST"
  path := "/update"
  headers := [("hashsha256", guard.code [123, 125])]
  body := [123, 125]
  host := "localhost"

theorem unsigned_never_looked_at_on_update :
    let server : Server := ⟨⟨[107]⟩, .abort⟩
    let request := codedRecord server.guard
    (∃ response, ∀ body, ¬ Signed server.guard { request with body } →
      respond server { request with body } = .done response) ∧
    respond server request
      = withSignature server.guard (handle server.keyless request) >>= fun response =>
          pure (sent request response) := by
  intro server request
  have leads : Route.ofPath? request.path = some .update := by decide
  have carried : request.headers.value? signatureHeader = some (server.guard.code request.body) :=
    Headers.value?_cons ..
  have variant := Guard.normal_eq_code_iff.1 (server.guard.normal_code request.body)
  have enabled : server.guard.enabled = true := rfl
  obtain ⟨refused, answered⟩ := unsigned_never_looked_at enabled leads (.inl rfl) rfl
  exact ⟨refused, (answered ⟨_, carried, variant⟩).2⟩

end Collector
end Telemetry
