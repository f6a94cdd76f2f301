import Telemetry.Proofs.Store.File.Interrupted
import Telemetry.Proofs.Store.Relational.Interrupted

/-!
# Cancelled updates

Both durable stores undo a write that fails, and neither undoes one whose caller is cancelled.  A
file store is left with the change in its contents, and its file shows it only if the rename had been
carried out; a relational store is left without the change, and its tables come to show it unless
the statement had not been executed.  So a cancelled update keeps contents and medium together
exactly in those two cases (`keepsTogether_iff_of_cancelled`).
-/

namespace Telemetry.Store

open Relational (Refusal)

/-- **When a cancelled call keeps contents and medium together**: a file store, if its document has
reached the file, or says nothing new, and no temporary file is left; a relational store, if the
connection is what it was. -/
theorem keepsTogether_iff_of_cancelled (call : Call) (after : Contents) :
    (∀ (config : File.Config) (word : Disk → String) (w : World (Brittle Disk Disk.Fault)),
      config.immediate = true → call.Finite → File.Interrupted.AtRest config w →
      call.effect w.contents = .ok after →
      (File.Interrupted.served config word call w).1 = .cancelled →
      let left := (File.Interrupted.served config word call w).2
      (File.Interrupted.KeepsTogether config left ↔
        File.Interrupted.Tidy config.path left.medium.state ∧
          (left.medium.state.node? config.path = some (.file (File.document after)) ∨
            after.Agree w.contents))) ∧
    ∀ (statement : Statement) (d : Database) (w : World (Brittle Connection Refusal)),
      Relational.Unruly.Writes call statement → w.medium.state = ⟨d, none⟩ →
      d.Mirrors w.contents → w.contents.Bounded → call.effect w.contents = .ok after →
      ¬ after.Alike w.contents → (Relational.Interrupted.served call w).1 = .cancelled →
      let left := (Relational.Interrupted.served call w).2
      (Relational.Interrupted.KeepsTogether left ↔ left.medium.state = w.medium.state) := by
  constructor
  · intro config word w immediate finite rest effect cancelled
    exact File.Interrupted.keepsTogether_iff word immediate finite rest effect cancelled
  · intro statement d w writes clean mirrors bounded effect changes cancelled
    exact Relational.Interrupted.keepsTogether_iff writes clean mirrors bounded effect changes
      cancelled

/-! ### New stores -/

/-- A file store that writes at once. -/
def metricsFile : File.Config := ⟨["data", "metrics.json"], true⟩

/-- A new file store, and what its steps will meet. -/
def newFile (script : List (Option (Hit Disk.Fault))) : World (Brittle Disk Disk.Fault) :=
  ⟨.empty, { state := Disk.withFolder ["data"], script }⟩

def newTables : Database := ⟨some .empty, some .empty, some ["001_metrics_tables"]⟩

/-- A relational store on new tables, and what its steps will meet. -/
def newDatabase (script : List (Option (Hit Refusal))) : World (Brittle Connection Refusal) :=
  ⟨.empty, { state := ⟨newTables, none⟩, script }⟩

theorem atRest_newFile (script : List (Option (Hit Disk.Fault))) :
    File.Interrupted.AtRest metricsFile (newFile script) := by
  have free (path : Path) (ne : path.length ≠ 1) : (Disk.withFolder ["data"]).node? path = none := by
    rw [Disk.withFolder, Disk.node?, Table.get?_put, if_neg]
    · rfl
    · rintro rfl
      exact ne rfl
  constructor
  · exact Contents.sayable_empty
  · exact ⟨.empty, File.opened_absent (free _ (by decide)), Contents.Agree.refl .empty⟩
  · intro word
    apply free
    simp [File.temporary, Path.sibling, Path.parent, metricsFile]

theorem mirrors_newTables : newTables.Mirrors .empty where
  gauges := ⟨.empty, rfl, fun _ => rfl⟩
  counters := ⟨.empty, rfl, fun _ => rfl⟩

theorem changes_setCounter : ¬ (Contents.empty.setCounter "hits" 1).Alike .empty := by
  intro alike
  have same := alike.counters "hits"
  revert same
  decide

/-- The cases of an update that is cancelled before its folder is made, or before its statement is
executed. -/
theorem keepsTogether_of_cancelled_first :
    let call : Call := .setCounter "hits" 1
    let file := newFile [some (.cancelled false)]
    let database := newDatabase [some (.cancelled false)]
    File.Interrupted.AtRest metricsFile file ∧
      (File.Interrupted.served metricsFile (fun _ => "k3") call file).1 = .cancelled ∧
      ¬ File.Interrupted.KeepsTogether metricsFile
        (File.Interrupted.served metricsFile (fun _ => "k3") call file).2 ∧
      (Relational.Interrupted.served call database).1 = .cancelled ∧
      Relational.Interrupted.KeepsTogether (Relational.Interrupted.served call database).2 := by
  intro call file database
  have rest : File.Interrupted.AtRest metricsFile file := atRest_newFile _
  have cancelled : (File.Interrupted.served metricsFile (fun _ => "k3") call file).1 = .cancelled :=
    rfl
  have cancelled' : (Relational.Interrupted.served call database).1 = .cancelled := rfl
  let after := Contents.empty.setCounter "hits" 1
  have together := (keepsTogether_iff_of_cancelled call after).1 metricsFile (fun _ => "k3") file rfl
    trivial rest rfl cancelled
  have together' := (keepsTogether_iff_of_cancelled call after).2 _ newTables database .counter rfl
    mirrors_newTables Contents.bounded_empty rfl changes_setCounter cancelled'
  refine ⟨rest, cancelled, fun keeps => ?_, cancelled', together'.2 rfl⟩
  obtain ⟨-, reached | nothing⟩ := together.1 keeps
  · cases reached
  · have same := nothing.counters "hits"
    revert same
    decide

/-- **A cancelled update parts contents and medium.**  Cancelled while its temporary file is created,
it leaves that file behind; cancelled while it is committed, it leaves its statement for the next
call to commit. -/
theorem not_keepsTogether_of_cancelled_later :
    let call : Call := .updateCounter "hits" 1
    let file := newFile [none, some (.cancelled true)]
    let database := newDatabase [none, some (.cancelled false)]
    ((File.Interrupted.served metricsFile (fun _ => "k3") call file).1 = .cancelled ∧
      ¬ File.Interrupted.KeepsTogether metricsFile
        (File.Interrupted.served metricsFile (fun _ => "k3") call file).2) ∧
      (Relational.Interrupted.served call database).1 = .cancelled ∧
      ¬ Relational.Interrupted.KeepsTogether (Relational.Interrupted.served call database).2 := by
  intro call file database
  refine ⟨⟨rfl, fun keeps => ?_⟩, rfl, fun keeps => ?_⟩
  · obtain ⟨-, tidy⟩ := keeps (fun _ => "k3") [] [] nofun rfl
    exact absurd (tidy "k3") (by decide +kernel)
  · obtain ⟨rows, hrows, same⟩ := (keeps [] [.setCounter "misses" 0] (by decide +kernel)).counters
    have committed : (some rows).bind (·.get? "hits") = some (.whole 1) := by
      rw [← hrows]
      decide +kernel
    have unknown : rows.get? "hits" = none := by
      rw [same]
      decide +kernel
    rw [Option.bind_some, unknown] at committed
    cases committed

end Telemetry.Store
