import Telemetry.Agent.Client
import Telemetry.Collector.Server
import Telemetry.Proofs.Gzip
import Telemetry.Proofs.Metric.Wire
import Telemetry.Proofs.Signature
import Telemetry.Proofs.Text.Percent
import Telemetry.Proofs.Url

/-!
# Requests of an agent at a collector

A request arrives with its path decoded.  If the client knows the collector by its root address,
the two JSON requests arrive on their routes (`ofPath?_batchRequest`, `ofPath?_singleRequest`).
Their bodies are compressed and then signed; a collector with the same key accepts them and finds
what was compressed (`payload_postJson`), and one with another key may only refuse them.
-/

namespace Telemetry

open Http

/-! ### Headers -/

theorem Http.Headers.value?_cons (name value : String) (headers : Headers) (asked : String) :
    Headers.value? ((name, value) :: headers) asked
      = if Text.lower name = Text.lower asked then some value else headers.value? asked := by
  unfold Headers.value?
  rw [List.find?_cons]
  split
  next h => rw [if_pos (of_decide_eq_true h)]; rfl
  next h => rw [if_neg (of_decide_eq_false h)]

/-! ### Arrival -/

/-- A request as the collector gets it: its path is decoded, and the query is no part of it. -/
def Http.Request.arrived (r : Request) : Request :=
  { r with
    path := (Percent.decode? (String.ofList (r.path.toList.takeWhile (· ≠ '?')))).getD r.path }

/-- What is to hold of the characters of a text is decided on the text. -/
theorem forall_mem_of_all {p : Char → Prop} [DecidablePred p] {cs : List Char}
    (h : (cs.all fun c => decide (p c)) = true) : ∀ c ∈ cs, p c :=
  fun c hc => of_decide_eq_true (List.all_eq_true.1 h c hc)

theorem takeWhile_noQuery {cs : List Char} (h : '?' ∉ cs) : cs.takeWhile (· ≠ '?') = cs := by
  induction cs with
  | nil => rfl
  | cons c cs ih =>
    have other : c ≠ '?' := fun heq => h (heq ▸ List.mem_cons_self)
    rw [List.takeWhile_cons, ih fun hc => h (List.mem_cons_of_mem c hc)]
    exact if_pos (decide_eq_true other)

/-- A path without percent signs and without a query arrives as it is. -/
theorem Http.Request.arrived_path {r : Request} {path : List Char}
    (sent : r.path = String.ofList path) (noQuery : '?' ∉ path) (plain : '%' ∉ path) :
    r.arrived.path = String.ofList path := by
  dsimp only [arrived]
  rw [sent, String.toList_ofList, takeWhile_noQuery noQuery, Percent.decode?_ofList plain]
  rfl

namespace Url

/-- The address of a collector: what is asked for is right below it. -/
def IsRoot (u : Url) : Prop := u.target = ['/']

theorem escape_eq_self {safe : Char → Bool} {cs : List Char} (h : ∀ c ∈ cs, safe c = true) :
    escape safe cs = cs := by
  -- The cases are those of `escape`: an escape, a percent sign alone, another character, the end.
  fun_induction escape safe cs with
  | case1 a b rest hex ih =>
    rw [ih fun c hc => h c (by simp [hc])]
  | case2 a b rest hex ih =>
    rw [ih fun c hc => h c (List.mem_cons_of_mem _ hc), if_pos (h '%' List.mem_cons_self)]
    rfl
  | case3 c rest _ ih =>
    rw [ih fun d hd => h d (List.mem_cons_of_mem _ hd), if_pos (h c List.mem_cons_self)]
    rfl
  | case4 => rfl

/-- A path as it is sent: without dot segments, if the URL is one of a server. -/
def sent (u : Url) (path : List Char) : List Char :=
  if u.scheme ≠ "" || u.located then resolveDots path else path

/-- Below a root stands what is asked for. -/
theorem target_below {u : Url} (root : u.IsRoot) {path : String} {rest : List Char}
    (starts : path.toList.dropWhile (· = '/') = rest) (noQuery : '?' ∉ rest)
    (nonempty : escape isPathChar (u.sent ('/' :: rest)) ≠ []) :
    (u.below path).target = escape isPathChar (u.sent ('/' :: rest)) := by
  have folder : u.asFolder = u := by
    rw [asFolder, root]
    rfl
  have spanned : List.span (fun c => decide (c ≠ '?')) ('/' :: rest) = ('/' :: rest, []) := by
    have kept : ('/' :: rest).takeWhile (· ≠ '?') = '/' :: rest :=
      takeWhile_noQuery (by simp [noQuery])
    have all := List.takeWhile_append_dropWhile (p := fun c => decide (c ≠ '?')) (l := '/' :: rest)
    rw [kept, List.append_right_eq_self] at all
    rw [List.span_eq_takeWhile_dropWhile, kept, all]
  have whole : u.asFolder.target ++ path.toList.dropWhile (· = '/') = '/' :: rest := by
    rw [folder, root, starts]
    rfl
  rw [below, whole, withTarget, spanned]
  show (if (escape isPathChar (u.sent ('/' :: rest))).isEmpty then ['/'] else _) ++ [] = _
  rw [if_neg (by simpa using nonempty), List.append_nil]
  rfl

/-- A path without dot segments is sent as it is, if all its characters may stand in a path. -/
theorem target_below_plain {u : Url} (root : u.IsRoot) {path : String} {rest : List Char}
    (starts : path.toList.dropWhile (· = '/') = rest) (plain : ∀ c ∈ rest, isPathChar c = true)
    (resolved : resolveDots ('/' :: rest) = '/' :: rest) : (u.below path).target = '/' :: rest := by
  have noQuery : '?' ∉ rest := fun h => absurd (plain '?' h) (by decide)
  have sent : u.sent ('/' :: rest) = '/' :: rest := by
    rw [sent, resolved, ite_self]
  have same : escape isPathChar (u.sent ('/' :: rest)) = '/' :: rest := by
    rw [sent]
    refine escape_eq_self fun c hc => ?_
    rcases List.mem_cons.1 hc with rfl | hc
    · decide
    · exact plain c hc
  rw [target_below root starts noQuery (by rw [same]; nofun), same]

end Url

namespace Agent.Client

open Collector

variable {client : Client}

/-- A JSON request arrives at the path that is asked for. -/
theorem path_postJson (root : client.url.IsRoot) (body : Bytes) {path : String} {rest : List Char}
    (starts : path.toList.dropWhile (· = '/') = rest)
    (plain : ∀ c ∈ rest, Url.isPathChar c = true ∧ c ≠ '%')
    (resolved : Url.resolveDots ('/' :: rest) = '/' :: rest) :
    (client.postJson path body).arrived.path = String.ofList ('/' :: rest) := by
  have target : (client.url.below path).target = '/' :: rest :=
    Url.target_below_plain root starts (fun c hc => (plain c hc).1) resolved
  refine Request.arrived_path (congrArg String.ofList target) ?_ ?_
  · intro h
    rcases List.mem_cons.1 h with h | h
    · cases h
    · exact absurd (plain '?' h).1 (by decide)
  · intro h
    rcases List.mem_cons.1 h with h | h
    · cases h
    · exact (plain '%' h).2 rfl

/-- A batch arrives on the route for batches. -/
theorem ofPath?_batchRequest (root : client.url.IsRoot) (batch : List Metric) :
    Route.ofPath? (client.batchRequest batch).arrived.path = some .updates := by
  have path : (client.batchRequest batch).arrived.path = String.ofList ('/' :: "updates".toList) :=
    path_postJson root _ (by decide) (forall_mem_of_all (by decide)) (by decide)
  rw [path]
  decide

/-- A single record arrives on the route for single records. -/
theorem ofPath?_singleRequest (root : client.url.IsRoot) (m : Metric) :
    Route.ofPath? (client.singleRequest m).arrived.path = some .update := by
  have path : (client.singleRequest m).arrived.path = String.ofList ('/' :: "update".toList) :=
    path_postJson root _ (by decide) (forall_mem_of_all (by decide)) (by decide)
  rw [path]
  decide

end Agent.Client

/-! ### Bodies -/

namespace Collector

variable {guard : Guard} {request : Request}

/-- **A request that carries its own signature is accepted.** -/
theorem checkSignature_signed
    (signed : request.headers.value? signatureHeader = guard.sign request.body) :
    checkSignature guard request = .ok () := by
  by_cases enabled : guard.enabled = true
  · rw [checkSignature, signed, Guard.sign, if_pos enabled, if_neg (by simp [enabled])]
    split
    next h => cases h
    next h => exact absurd (Option.some.inj h) (guard.code_ne_empty request.body)
    next signature _ h =>
      cases h
      rw [guard.verify_code request.body]
  · rw [checkSignature, if_pos (by simp [enabled])]

/-- A refusal of a signature is a bad request, or an internal error. -/
theorem status_of_checkSignature {refusal : Option Response}
    (h : checkSignature guard request = .error refusal) : ∀ r, refusal = some r → r.status = 400 := by
  unfold checkSignature at h
  split at h
  · cases h
  · split at h
    · cases h
      rintro r ⟨⟩
      rfl
    · cases h
      rintro r ⟨⟩
      rfl
    · split at h
      · cases h
      · cases h
        rintro r ⟨⟩
        rfl
      · cases h
        nofun

/-- The payload of a compressed body is what was compressed, if the signature is accepted. -/
theorem payload_compressed {body : Bytes} (compressed : request.body = Gzip.compress body)
    (encoding : request.headers.value? "content-encoding" = some "gzip") :
    payload guard request = (checkSignature guard request).map fun _ => body := by
  have named : holds "gzip" (Text.lower ((some "gzip").getD "")) = true := by decide
  unfold payload
  rw [encoding, compressed, Gzip.decompress?_compress, if_pos named]
  cases checkSignature guard request with
  | error refusal => rfl
  | ok => rfl

end Collector

namespace Agent.Client

open Collector

variable (client : Client) (path : String) (body : Bytes)

theorem encoding_postJson :
    (client.postJson path body).headers.value? "content-encoding" = some "gzip" := by
  show Headers.value? (("Content-Type", _) :: ("Content-Encoding", _) :: _) _ = _
  rw [Headers.value?_cons, if_neg (by decide), Headers.value?_cons, if_pos (by decide)]

theorem signature_postJson :
    (client.postJson path body).headers.value? signatureHeader
      = client.guard.sign (Gzip.compress body) := by
  dsimp only [postJson, post, List.cons_append, List.nil_append]
  rw [Headers.value?_cons, if_neg (by decide), Headers.value?_cons, if_neg (by decide),
    Headers.value?_cons, if_neg (by decide)]
  cases client.guard.sign (Gzip.compress body) with
  | none => rfl
  | some s =>
    show Headers.value? [("HashSHA256", s)] _ = _
    rw [Headers.value?_cons, if_pos (by decide)]

/-- A collector finds in a JSON request what was compressed, if it accepts the signature. -/
theorem payload_postJson (guard : Guard) :
    payload guard (client.postJson path body).arrived
      = (checkSignature guard (client.postJson path body).arrived).map fun _ => body :=
  payload_compressed rfl (client.encoding_postJson path body)

/-- **A collector with the same key finds what was compressed.** -/
theorem payload_postJson_own :
    payload client.guard (client.postJson path body).arrived = .ok body := by
  have accepted : checkSignature client.guard (client.postJson path body).arrived = .ok () :=
    checkSignature_signed (client.signature_postJson path body)
  rw [payload_postJson, accepted]
  rfl

end Agent.Client
end Telemetry
