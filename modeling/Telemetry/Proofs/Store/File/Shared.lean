import Telemetry.Proofs.Store.File.Write
import Telemetry.Proofs.Store.Shared

/-!
# Calls that share a file store

Calls of a file store are orderly among others on a disk that fails (`orderly_change`,
`orderly_save`, `orderly_lookUp`).  A snapshot is
drawn up before it is its turn to be written, and still is the snapshot of the contents when it is
renamed over the file, for the call stays inside the lock in between (`orderly_write`).
-/

namespace Telemetry.Store.File

open Dialogue

variable {config : Config} {path : Path} {w : World Rough}

/-- Steps on a rough disk leave the file alone or renew it, and a call in turn does not notice that
others draw their tokens. -/
def sharing (path : Path) : Sharing Step.Answer Rough where
  may := Rough.may path
  step := Turned path
  alike m m' := m'.disk = m.disk ∧ m.SameRenames m'
  refl m := ⟨rfl, Rough.SameRenames.refl m⟩
  trans _ _ _ h h' := ⟨h'.1.trans h.1, h.2.trans h'.2⟩

theorem Did.congr {f : Disk → Except Disk.Fault Disk} {m m₁ m' noted noted₁ : Rough}
    {outcome : Outcome Disk.Fault Unit} (disk : m₁.disk = m.disk) (renames : m.SameRenames m₁)
    (notes : noted.SameRenames noted₁) (h : Did path f m₁ noted₁ outcome m') :
    Did path f m noted outcome m' := by
  cases h with
  | done h renames' => exact .done (disk ▸ h) (notes.trans renames')
  | failed fault node renames' => exact .failed fault (disk ▸ node) (renames.trans renames')

/-- What may come of a step depends on the disk and on what is noted of renames. -/
theorem may_alike (s : Step) (w : World Rough) (m : Rough) (answer : s.Answer) (m' : Rough)
    (alike : (sharing path).alike w.medium m)
    (h : Rough.may path s { w with medium := m } answer m') : Rough.may path s w answer m' := by
  obtain ⟨disk, renames⟩ := alike
  cases s with
  | token => exact ⟨h.1.trans disk, renames.trans h.2⟩
  | occupied other =>
    obtain ⟨there, kept, kept'⟩ := h
    exact ⟨there.trans (by rw [disk]), kept.trans disk, renames.trans kept'⟩
  | read other =>
    obtain ⟨content, kept, kept'⟩ := h
    exact ⟨content.trans (by rw [disk]), kept.trans disk, renames.trans kept'⟩
  | makeFolders | create | fill | flush | sync | close | remove =>
    exact Did.congr disk renames renames h
  | rename source target =>
    refine Did.congr disk renames ?_ h
    split
    · exact renames.install _
    · exact renames

theorem turned_alike (w : World Rough) (m m' : Rough) (alike : (sharing path).alike w.medium m)
    (h : Turned path w { w with medium := m' }) :
    Turned path { w with medium := m } { w with medium := m' } := by
  obtain ⟨disk, renames⟩ := alike
  rcases h with quiet | renewed
  · refine .inl ⟨rfl, quiet.node.trans (by rw [disk]), ?_⟩
    exact ⟨quiet.renames.installed.trans renames.installed.symm,
      quiet.renames.renamed.trans renames.renamed.symm⟩
  · refine .inr ⟨rfl, renewed.node, renewed.installed, ?_⟩
    rw [show m.renamed = w.medium.renamed from renames.renamed]
    exact renewed.renamed

/-- How a write ends: with the contents that it started with, and if it fails, with a storage
fault. -/
def Written (path : Path) (c : Contents) : Outcome Error Unit → World Rough → Prop :=
  Ends (fun _ w => w.contents = c) fun e w =>
    (∃ fault, e = .storage (.unwritten path fault)) ∧ w.contents = c

/-- **A write is orderly**, and what it installs are the contents of that moment. -/
theorem orderly_write (path : Path) (mode : Lock.Mode) (entered : Contents) (w : World Rough) :
    Orderly (sharing path)
      (fun outcome stage w' => stage = .inside mode entered ∧ Written path w.contents outcome w')
      (write path w.contents) (.inside mode entered) w := by
  refine ⟨trivial, ?_⟩
  rintro token m ⟨disk, renames⟩
  have quiet : Quiet path w { w with medium := m } := ⟨rfl, by rw [disk], renames⟩
  refine ⟨.inl quiet, ⟨disk, renames⟩, ?_⟩
  rintro ⟨c, m'⟩ (rfl : c = w.contents)
  refine orderly_inTurn fun m => ?_
  have placed : Stepwise (within (Rough.may path)) (Turned path)
      (fun outcome w' => Stage.inside mode entered = .inside mode entered ∧
        Written path w.contents outcome w')
      (place path token (document w.contents)) ⟨w.contents, m⟩ := by
    refine (stepwise_place path token ⟨w.contents, m⟩).mono fun outcome w' h => ⟨rfl, ?_⟩
    cases outcome with
    | value => exact h.contents
    | failure e => exact ⟨h.1, h.2.contents⟩
    | cancelled => exact h
  refine orderly_of_stepwise (asks_place _ _ _) may_alike turned_alike ?_ placed (Disturbed.refl _ _)
  intro outcome w' m _ h
  cases outcome with
  | value | failure | cancelled => exact h

variable {effect : Contents → Except Error Contents}
  {served : Contents → Outcome Error Unit → Contents → Prop}

/-- **A change is orderly**: it is refused, done or taken back when its write has failed. -/
theorem orderly_change (refused : ∀ c e, effect c = .error e → served c (.failure e) c)
    (done : ∀ c after, effect c = .ok after → served c (.value ()) after)
    (failed : config.immediate = true → ∀ c after fault, effect c = .ok after →
      served c (.failure (.storage (.unwritten config.path fault))) c) :
    Orderly (sharing config.path) (Settled served) (change config effect) .outside w := by
  refine orderly_locked fun w => orderly_contents trivial ?_
  cases h : effect w.contents with
  | error e => exact ⟨rfl, refused _ e h⟩
  | ok after =>
    refine orderly_setContents ?_
    cases immediate : config.immediate with
    | false => exact ⟨rfl, done _ after h⟩
    | true =>
      refine (orderly_write config.path .write w.contents { w with contents := after }).bind ?_
      rintro outcome _ w' ⟨rfl, written⟩
      cases outcome with
      | value =>
        obtain rfl : w'.contents = after := written
        exact ⟨rfl, done _ _ h⟩
      | failure e =>
        obtain ⟨⟨fault, rfl⟩, -⟩ := written
        exact orderly_setContents ⟨rfl, failed immediate _ after fault h⟩
      | cancelled => exact written.elim

/-- **Saving is orderly.** -/
theorem orderly_save (done : ∀ c, served c (.value ()) c)
    (failed : ∀ c fault, served c (.failure (.storage (.unwritten path fault))) c) :
    Orderly (sharing path) (Settled served) (locked .read (contents >>= write path)) .outside w := by
  refine orderly_locked fun w => orderly_contents trivial ?_
  refine (orderly_write path .read w.contents w).mono ?_
  rintro outcome _ w' ⟨rfl, written⟩
  refine ⟨rfl, ?_⟩
  show served w.contents outcome w'.contents
  cases outcome with
  | value =>
    rw [show w'.contents = w.contents from written]
    exact done w.contents
  | failure e =>
    obtain ⟨⟨fault, rfl⟩, kept⟩ := written
    rw [kept]
    exact failed w.contents fault
  | cancelled => exact written.elim

theorem orderly_lookUp {α : Type} {f : Contents → α}
    {served : Contents → Outcome Error α → Contents → Prop}
    (done : ∀ c, served c (.value (f c)) c) :
    Orderly (sharing path) (Settled served) (lookUp f) .outside w :=
  orderly_locked fun w => orderly_contents trivial ⟨rfl, done w.contents⟩

/-! ### Paths that no file can have -/

/-- A write that leads nowhere makes folders at most. -/
theorem orderly_writeNowhere (path : Path) (mode : Lock.Mode) (entered : Contents)
    (w : World Rough) :
    Orderly (sharing path)
      (fun outcome stage w' => stage = .inside mode entered ∧
        outcome = .failure nowhere ∧ w'.contents = w.contents)
      (writeNowhere path) (.inside mode entered) w := by
  refine orderly_inTurn fun m => ⟨trivial, fun answer m' did => ?_⟩
  have spares (disk' : Disk) (h : m.disk.makeFolders (path.parent.takeWhile nameable) = .ok disk') :
      disk'.node? path = m.disk.node? path :=
    Disk.node?_makeFolders (List.takeWhile_prefix _) h
  have quiet : Quiet path ⟨w.contents, m⟩ ⟨w.contents, m'⟩ := (Did.quiet spares did).1
  refine ⟨.inl quiet, trivial, ?_⟩
  rintro ⟨c, m''⟩ ⟨same, -⟩
  cases did with
  | done | failed => exact ⟨rfl, rfl, rfl, same⟩

theorem orderly_changeNowhere (refused : ∀ c e, effect c = .error e → served c (.failure e) c)
    (done : config.immediate = false → ∀ c after, effect c = .ok after →
      served c (.value ()) after)
    (failed : config.immediate = true → ∀ c after, effect c = .ok after →
      served c (.failure nowhere) after) :
    Orderly (sharing config.path) (Settled served) (changeNowhere config effect) .outside w := by
  refine orderly_locked fun w => orderly_contents trivial ?_
  cases h : effect w.contents with
  | error e => exact ⟨rfl, refused _ e h⟩
  | ok after =>
    refine orderly_setContents ?_
    cases immediate : config.immediate with
    | false => exact ⟨rfl, done immediate _ after h⟩
    | true =>
      refine (orderly_writeNowhere config.path .write w.contents { w with contents := after }).mono ?_
      rintro _ _ w' ⟨rfl, rfl, rfl⟩
      exact ⟨rfl, failed immediate _ _ h⟩

theorem orderly_saveNowhere (failed : ∀ c, served c (.failure nowhere) c) :
    Orderly (sharing path) (Settled served) (locked .read (writeNowhere path)) .outside w := by
  refine orderly_locked fun w => (orderly_writeNowhere path .read w.contents w).mono ?_
  rintro _ _ w' ⟨rfl, rfl, kept⟩
  refine ⟨rfl, ?_⟩
  show served w.contents _ w'.contents
  rw [kept]
  exact failed w.contents

end Telemetry.Store.File
