import Telemetry.Proofs.Json.Refused
import Telemetry.Proofs.Metric.Snapshot

/-!
# Records on the wire

A single record is written in ASCII, with blanks after separators and with words for the doubles
that are not finite, and all of that is read back (`Metric.ofBytes_spaced`).  What is too long to be
read is refused, in a record of its own and anywhere in a snapshot alike
(`Metric.ofBytes_spaced_long`, `Snapshot.ofBytes_long`): no reader takes a number for another one.
So a snapshot is read as its records exactly if it can say them (`Snapshot.ofBytes_toBytes_iff`).
-/

namespace Telemetry

open Json

/-! ### Doubles -/

namespace Json

theorem neat_spaced : Style.spaced.Neat where
  items := by
    refine ⟨[' '], (by decide : ", ".toList = [',', ' ']), ?_⟩
    intro c hc
    rw [List.mem_singleton.1 hc]
    decide
  names := by
    refine ⟨[' '], (by decide : ": ".toList = [':', ' ']), ?_⟩
    intro c hc
    rw [List.mem_singleton.1 hc]
    decide
  layout := (by constructor <;> decide : IsReadable Style.spaced.layout)

theorem neat_compact : Style.compact.Neat where
  items := ⟨[], (by decide : ",".toList = [',']), nofun⟩
  names := ⟨[], (by decide : ":".toList = [':']), nofun⟩
  layout := (by constructor <;> decide : IsReadable Style.compact.layout)

/-- **Every double is read back** where those that are not finite have words. -/
theorem readsBack_spaced_float (depth : Nat) (x : Double) :
    ReadsBack .spaced depth (.float x) := by
  cases x with
  | finite negative rank => exact readsBack_of_fits neat_spaced (.float rfl)
  | nan =>
    exact readsBack_word 'N' "aN".toList (fun _ => rfl) (by decide) (by decide)
      (fun _ _ => rfl)
  | infinity negative =>
    cases negative with
    | false =>
      exact readsBack_word 'I' "nfinity".toList (fun _ => rfl) (by decide)
        (by decide) (fun _ _ => rfl)
    | true =>
      have starts : StartsNumber "-Infinity".toList := ⟨'-', "Infinity".toList, rfl, .inl rfl⟩
      refine readsBack_number (fun _ => rfl) starts ?_
      intro rest _
      show (float (.infinity true), ·) <$> skipWord? "nfinity".toList ("nfinity".toList ++ rest) = _
      rw [skipWord?_append]
      rfl

end Json

/-! ### Single records -/

namespace Metric

/-- A record is the record of its own JSON. -/
theorem ofJson_toJson (m : Metric) : Metric.ofJson m.toJson = .ok m := by
  obtain ⟨id, type, delta, value⟩ := m
  cases delta <;> cases value <;> rfl

theorem readsBack_toJson {m : Metric} (short : m.Short) (depth : Nat) :
    ReadsBack .spaced (depth + 1) m.toJson := by
  obtain ⟨id, type, delta, value⟩ := m
  refine readsBack_object neat_spaced ?_
  intro field hfield
  simp only [List.mem_append, List.mem_cons, List.not_mem_nil, or_false] at hfield
  rcases hfield with ((rfl | rfl) | hdelta) | hvalue
  · exact readsBack_string id
  · exact readsBack_string type
  · cases delta with
    | none => cases hdelta
    | some n =>
      cases List.mem_singleton.1 hdelta
      exact readsBack_of_fits neat_spaced (.int (short n rfl))
  · cases value with
    | none => cases hvalue
    | some x =>
      cases List.mem_singleton.1 hvalue
      exact readsBack_spaced_float depth x

/-- **A record that is written on its own is read as itself.** -/
theorem ofBytes_spaced {m : Metric} (short : m.Short) :
    Metric.ofBytes (Utf8.encode (m.toJson.toText .spaced)) = .ok m := by
  rw [Metric.ofBytes, ofBytes?_toText_of_readsBack (readsBack_toJson short 199)]
  exact ofJson_toJson m

/-- **The JSON of a record whose change is too long cannot be read**, whatever its value. -/
theorem unread_toJsonWith {style : Style} (neat : style.Neat) (writeValue : Double → Json)
    {m : Metric} (long : ¬ m.Short) (depth : Nat) :
    Unread style (depth + 1) (m.toJsonWith writeValue) := by
  obtain ⟨id, type, delta, value⟩ := m
  cases delta with
  | none => exact absurd nofun long
  | some n =>
    have long : ¬ IsShort n := fun short => long (by rintro _ ⟨⟩; exact short)
    -- The value stands after the change, so that it is never come to.
    exact unread_object neat
      (.later (readsBack_string id) (.later (readsBack_string type) (.here (unread_int long))))

/-- **An amount that is too long is refused.** -/
theorem ofBytes_spaced_long {m : Metric} (long : ¬ m.Short) :
    Metric.ofBytes (Utf8.encode (m.toJson.toText .spaced)) = .error [⟨.invalidJson, []⟩] := by
  have unread : Unread .spaced maxDepth m.toJson := unread_toJsonWith neat_spaced .float long 199
  rw [Metric.ofBytes, ofBytes?_toText_unread unread]

/-- What a snapshot can say is written as in a snapshot. -/
theorem Sayable.toJson_eq {m : Metric} (sayable : m.Sayable) : m.toJson = m.toSnapshotJson := by
  obtain ⟨id, type, delta, value⟩ := m
  cases value with
  | none => rfl
  | some x =>
    have finite : x.isFinite = true := sayable.value x rfl
    simp only [toJson, toSnapshotJson, toJsonWith, Json.present, finite, if_true]

/-- **A record that a snapshot can say is read back without blanks, too.** -/
theorem ofBytes_compact {m : Metric} (sayable : m.Sayable) :
    Metric.ofBytes (Utf8.encode (m.toJson.toText .compact)) = .ok m := by
  have fits : Json.Fits Json.maxDepth m.toJson := by
    rw [sayable.toJson_eq]
    exact fits_toSnapshotJson sayable.delta 199
  rw [Metric.ofBytes, ofBytes?_toText neat_compact fits]
  exact ofJson_toJson m

end Metric

/-! ### Snapshots -/

namespace Snapshot

/-- **A snapshot with an amount that is too long is refused**, wherever it stands. -/
theorem ofBytes_long (indent : Option Nat) {ms : List Metric} {m : Metric} (hm : m ∈ ms)
    (long : ¬ m.Short) : Snapshot.ofBytes (toBytes indent ms) = .error [⟨.invalidJson, []⟩] := by
  have neat := neat_snapshot indent
  have unread : Unread (.snapshot indent) maxDepth (.array (ms.map Metric.toSnapshotJson)) := by
    refine unread_array neat (breaksOff_of_mem ?_ (List.mem_map_of_mem hm)
      (Metric.unread_toJsonWith neat _ long 198))
    intro item hitem
    obtain ⟨m, -, rfl⟩ := List.mem_map.1 hitem
    by_cases short : m.Short
    · exact .inl (readsBack_of_fits neat (Metric.fits_toSnapshotJson short 198))
    · exact .inr (Metric.unread_toJsonWith neat _ short 198)
  rw [Snapshot.ofBytes, toBytes, toText, ofBytes?_toText_unread unread]

/-- **Exactly the lists of records that a snapshot can say are read back**, with any indentation:
their ids and types are any strings, absent fields are absent still, and a zero keeps its sign. -/
theorem ofBytes_toBytes_iff (indent : Option Nat) (ms : List Metric) :
    Snapshot.ofBytes (toBytes indent ms) = .ok ms ↔ ∀ m ∈ ms, m.Sayable := by
  constructor
  · intro back
    have short : ∀ m ∈ ms, m.Short := by
      intro m hm
      by_contra long
      cases (ofBytes_long indent hm long).symm.trans back
    have said : ms.map Metric.said = ms.map id :=
      (Except.ok.inj ((ofBytes_toBytes_said indent short).symm.trans back)).trans
        (List.map_id ms).symm
    intro m hm
    exact ⟨short m hm, Metric.said_eq_self_iff.1 (List.map_inj_left.1 said m hm)⟩
  · exact ofBytes_toBytes indent

end Snapshot
end Telemetry
