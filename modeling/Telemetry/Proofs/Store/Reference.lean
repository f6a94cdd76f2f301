import Telemetry.Proofs.Store.AtWork

/-!
# The reference store

A ledger is two finite maps, one of gauges and one of counters: a gauge is overwritten, and a
counter is added to or replaced unless it would leave its range.  A transcript follows a ledger if
each call that returns has the effect and the result that it has there, a call is refused exactly
where the ledger refuses it and before anything has been tried, and every other call that fails
does so with a storage fault and leaves no trace (`Ledger.Follows`).

Every store follows the ledger of its contents, whatever its medium does, exactly as long as no call
goes astray: only a file store can lead one astray, and such a call fails otherwise and leaves its
effect (`transcript_follows_ledger_iff`).
-/

namespace Telemetry.Store

/-! ### Ledgers -/

/-- The values of gauges and the sums of counters. -/
structure Ledger where
  gauges : String → Option Double
  counters : String → Option Int

namespace Ledger

def empty : Ledger := ⟨fun _ => none, fun _ => none⟩

def putGauge (l : Ledger) (name : String) (value : Double) : Ledger :=
  { l with gauges := fun other => if name = other then some value else l.gauges other }

/-- Replace the sum of a counter, if it is within range. -/
def putCounter (l : Ledger) (name : String) (sum : Int) : Option Ledger :=
  if InRange sum then
    some { l with counters := fun other => if name = other then some sum else l.counters other }
  else none

/-- The ledger after a call, unless it is refused. -/
def next (l : Ledger) : Call → Option Ledger
  | .updateGauge name value => some (l.putGauge name value)
  | .updateCounter name delta => l.putCounter name ((l.counters name).getD 0 + delta)
  | .setCounter name value => l.putCounter name value
  | _ => some l

/-- The gauges and then the counters are listed, each by strictly increasing name, and exactly
those of the ledger. -/
def Lists (l : Ledger) (readings : List Reading) : Prop :=
  ∃ (gauges : List (String × Double)) (counters : List (String × Int)),
    readings = gauges.map (fun e => .gauge e.1 e.2) ++ counters.map (fun e => .counter e.1 e.2) ∧
      gauges.Pairwise (fun a b => a.1 < b.1) ∧ counters.Pairwise (fun a b => a.1 < b.1) ∧
        (∀ name value, (name, value) ∈ gauges ↔ l.gauges name = some value) ∧
          ∀ name sum, (name, sum) ∈ counters ↔ l.counters name = some sum

/-- What a call returns from a ledger. -/
def Gives (l : Ledger) : (call : Call) → call.Result → Prop
  | .getGauge name, value => value = l.gauges name
  | .getCounter name, sum => sum = l.counters name
  | .getAll, readings => l.Lists readings
  | _, _ => True

inductive Follows : Ledger → List Exchange → Prop
  | nil {l : Ledger} : Follows l []
  /-- A call that returns has the effect and the result that it has in the ledger. -/
  | returns {l l' : Ledger} {call : Call} {result : call.Result} {tried : Nat}
      {later : List Exchange} (next : l.next call = some l') (gives : l'.Gives call result)
      (rest : Follows l' later) : Follows l (⟨call, .value result, tried⟩ :: later)
  /-- A counter would leave its range, and nothing has been tried. -/
  | overflows {l : Ledger} {call : Call} {name : String} {later : List Exchange}
      (next : l.next call = none) (counter : call.counter? = some name) (rest : Follows l later) :
      Follows l (⟨call, .failure (.overflow name), 0⟩ :: later)
  /-- The medium fails. -/
  | fails {l l' : Ledger} {call : Call} {fault : Fault} {tried : Nat} {later : List Exchange}
      (next : l.next call = some l') (rest : Follows l later) :
      Follows l (⟨call, .failure (.storage fault), tried⟩ :: later)

/-! ### Ledgers of contents -/

def ofContents (c : Contents) : Ledger := ⟨c.gauges.get?, c.counters.get?⟩

theorem ofContents_setGauge (c : Contents) (name : String) (value : Double) :
    ofContents (c.setGauge name value) = (ofContents c).putGauge name value := by
  have gauges : (c.setGauge name value).gauges.get?
      = ((ofContents c).putGauge name value).gauges :=
    funext fun other => Table.get?_put c.gauges name other value
  exact congrArg (Ledger.mk · c.counters.get?) gauges

theorem ofContents_setCounter (c : Contents) {name : String} {sum : Int} (range : InRange sum) :
    (ofContents c).putCounter name sum = some (ofContents (c.setCounter name sum)) := by
  have counters : (c.setCounter name sum).counters.get?
      = fun other => if name = other then some sum else c.counters.get? other :=
    funext fun other => Table.get?_put c.counters name other sum
  rw [putCounter, if_pos range]
  exact congrArg (fun counters => some (Ledger.mk c.gauges.get? counters)) counters.symm

/-- **A call has the same effect on contents and on their ledger.** -/
theorem next_ofContents {call : Call} {c after : Contents} (h : call.effect c = .ok after) :
    (ofContents c).next call = some (ofContents after) := by
  cases call with
  | updateGauge name value =>
    cases h
    exact congrArg some (ofContents_setGauge c name value).symm
  | updateCounter name delta =>
    obtain ⟨range, rfl⟩ := setCounter_checked h
    exact ofContents_setCounter c range
  | setCounter name value =>
    obtain ⟨range, rfl⟩ := setCounter_checked h
    exact ofContents_setCounter c range
  | getGauge | getCounter | getAll | save | ping =>
    cases h
    rfl

/-- **A call is refused by contents exactly if it is refused by their ledger.** -/
theorem next_ofContents_eq_none {call : Call} {c : Contents} {e : Error}
    (h : call.effect c = .error e) :
    (ofContents c).next call = none ∧ ∃ name, e = .overflow name ∧ call.counter? = some name := by
  obtain ⟨name, rfl, ⟨delta, rfl, range⟩ | ⟨value, rfl, range⟩⟩ := Call.effect_eq_error h
  · exact ⟨if_neg range, name, rfl, rfl⟩
  · exact ⟨if_neg range, name, rfl, rfl⟩

theorem lists_snapshot (c : Contents) : (ofContents c).Lists c.snapshot :=
  ⟨c.gauges.sorted, c.counters.sorted, rfl, c.gauges.pairwise_sorted, c.counters.pairwise_sorted,
    fun _ _ => Table.mem_sorted_iff, fun _ _ => Table.mem_sorted_iff⟩

theorem gives_found (call : Call) (c : Contents) : (ofContents c).Gives call (call.found c) := by
  cases call with
  | getGauge name => rfl
  | getCounter name => rfl
  | getAll => exact lists_snapshot c
  | updateGauge | updateCounter | setCounter | save | ping => trivial

end Ledger

/-! ### Stores -/

/-- No call goes astray of some that are made one after the other. -/
def AtWork.Arrive : List Call → AtWork → Prop
  | [], _ => True
  | call :: later, store => ¬ store.LeadsAstray call ∧ Arrive later (store.answer call).2

/-- No call goes astray at a store whose file can be there, or that has none. -/
theorem AtWork.Placed.arrive {store : AtWork} (placed : store.Placed) (calls : List Call) :
    AtWork.Arrive calls store := by
  induction calls generalizing store with
  | nil => trivial
  | cons call later ih => exact ⟨placed.arrives call, ih (placed_answer placed call)⟩

/-- An exchange that does not go astray follows the ledger, as far as the ones after it do. -/
theorem AtWork.follows_exchange_iff (store : AtWork) {call : Call} (bindable : call.Bindable)
    (arrives : ¬ store.LeadsAstray call) {later : List Exchange} :
    (Ledger.ofContents store.contents).Follows
        (⟨call, (store.answer call).1, (store.answer call).2.tried - store.tried⟩ :: later) ↔
      (Ledger.ofContents (store.answer call).2.contents).Follows later := by
  obtain ⟨served, untouched⟩ := store.answered bindable arrives
  generalize hanswer : (store.answer call).1 = answer at served
  generalize hafter : (store.answer call).2.contents = after at served
  cases served with
  | done h =>
    have next := Ledger.next_ofContents h
    refine ⟨fun follows => ?_, fun rest => .returns next (Ledger.gives_found call after) rest⟩
    obtain _ | ⟨next', -, rest⟩ := follows
    cases next.symm.trans next'
    exact rest
  | refused h =>
    obtain ⟨next, name, rfl, counter⟩ := Ledger.next_ofContents_eq_none h
    rw [untouched _ h, Nat.sub_self]
    refine ⟨fun follows => ?_, .overflows next counter⟩
    obtain _ | _ | ⟨-, -, rest⟩ := follows
    exact rest
  | failed h fault =>
    refine ⟨fun follows => ?_, .fails (Ledger.next_ofContents h)⟩
    obtain _ | _ | _ | ⟨-, rest⟩ := follows
    exact rest

/-- No ledger has calls that have gone astray. -/
theorem Ledger.not_follows_astray (l : Ledger) (call : Call) (tried : Nat)
    (later : List Exchange) :
    ¬ l.Follows (⟨call, .failure File.nowhere, tried⟩ :: later) := by
  rintro ⟨⟩

/-- **A store follows the ledger of its contents exactly if no call goes astray**, whatever its
medium does. -/
theorem transcript_follows_ledger_iff (store : AtWork) (calls : List Call)
    (bindable : ∀ call ∈ calls, call.Bindable) :
    (Ledger.ofContents store.contents).Follows (AtWork.transcript (askEach calls) store) ↔
      AtWork.Arrive calls store := by
  induction calls generalizing store with
  | nil => exact iff_of_true .nil trivial
  | cons call later ih =>
    obtain ⟨first, rest⟩ := List.forall_mem_cons.1 bindable
    have ih := ih (store.answer call).2 rest
    by_cases astray : store.LeadsAstray call
    · refine iff_of_false (fun follows => ?_) fun arrive => arrive.1 astray
      rw [askEach, Dialogue.say_bind, AtWork.transcript] at follows
      simp only [AtWork.answer_of_astray astray] at follows
      exact Ledger.not_follows_astray _ _ _ _ follows
    · exact ((store.follows_exchange_iff first astray).trans ih).trans (and_iff_right astray).symm

/-- The case of a relational store on a new database, where the first statement is refused and
the counter then runs full. -/
theorem transcript_follows_ledger_of_new_database :
    let calls : List Call := [.updateCounter "hits" 4, .updateGauge "hits" .zero,
      .updateCounter "hits" 9223372036854775807, .updateCounter "hits" 1, .getAll]
    let world : World Relational.Faulty := ⟨.empty, {
      connection := ⟨Database.empty.prepared, none⟩
      script := [some ⟨none, "disk is full"⟩] }⟩
    (∀ call ∈ calls, call.Bindable) ∧ ∃ rest : Relational.AtRest world,
      Ledger.empty.Follows (AtWork.transcript (askEach calls) (.relational world rest)) := by
  intro calls world
  have bindable : ∀ call ∈ calls, call.Bindable := by
    intro call hmem
    simp only [calls, List.mem_cons, List.not_mem_nil, or_false] at hmem
    rcases hmem with rfl | rfl | rfl | rfl | rfl
    · show InRange 4
      decide
    · trivial
    · show InRange 9223372036854775807
      decide
    · show InRange 1
      decide
    · trivial
  have mirrors : Database.empty.prepared.Mirrors .empty :=
    ⟨⟨_, rfl, fun _ => rfl⟩, ⟨_, rfl, fun _ => rfl⟩⟩
  have rest : Relational.AtRest world := ⟨rfl, mirrors, Contents.bounded_empty⟩
  have placed : (AtWork.relational world rest).Placed := trivial
  exact ⟨bindable, rest,
    (transcript_follows_ledger_iff (.relational world rest) calls bindable).2 (placed.arrive calls)⟩

/-- **An update that cannot be written is read all the same** where no file can be: the store that
writes at once fails with another failure than a storage fault, and keeps the gauge. -/
theorem not_follows_ledger_of_null_byte :
    let config : File.Config := ⟨["data", "metrics\x00.json"], true⟩
    let store : AtWork := .file config
      ⟨.empty, { disk := Disk.withFolder ["data"], words := fun _ => "k3", installed := .empty }⟩
    let calls : List Call := [.updateGauge "load" .zero, .getGauge "load"]
    AtWork.transcript (askEach calls) store
        = [⟨.updateGauge "load" .zero, .failure File.nowhere, 1⟩,
          ⟨.getGauge "load", .value (some .zero), 0⟩] ∧
      ¬ Ledger.empty.Follows (AtWork.transcript (askEach calls) store) := by
  intro config store calls
  have told : AtWork.transcript (askEach calls) store
      = [⟨.updateGauge "load" .zero, .failure File.nowhere, 1⟩,
        ⟨.getGauge "load", .value (some .zero), 0⟩] := by
    rfl
  rw [told]
  exact ⟨rfl, Ledger.not_follows_astray _ _ _ _⟩

end Telemetry.Store
