import Mathlib.Data.List.Induction
import Telemetry.Proofs.Store.File.Write

/-!
# What calls can come to alone

A disk has room for a file if the folders on it are those above the file (`Room`).  On such a disk a
script decides whether a write is done or fails, and with which fault.  So every answer that fits
the effect of a call is one that a script can bring about for a call that works alone (`Feasible`),
and leaves room for the calls after it.
-/

namespace Telemetry.Store.File

open Dialogue

/-! ### Disks with room -/

/-- The folders on a disk are those above the file at a path. -/
def Room (path : Path) (disk : Disk) : Prop :=
  ∀ other, disk.node? other = some .folder ↔ other <+: path.parent

section

variable {path other : Path} {disk : Disk} {content : Bytes}

/-- For every path there is a disk with room. -/
theorem exists_room (path : Path) : ∃ disk, Room path disk := by
  unfold Room
  generalize path.parent = parent
  induction parent using List.reverseRecOn with
  | nil =>
    refine ⟨Disk.withFolder [], fun other => ?_⟩
    rw [Disk.withFolder, Disk.node?, Table.get?_put, List.prefix_nil]
    split
    next root => simp [root]
    next below =>
      constructor
      · rintro ⟨⟩
      · exact fun root => absurd root.symm below
  | append_singleton parent name ih =>
    obtain ⟨disk, room⟩ := ih
    refine ⟨disk.set (parent ++ [name]) .folder, fun other => ?_⟩
    rw [Disk.node?_set, List.prefix_concat_iff, ← room other]
    split
    next last => simp [last]
    next before => exact ⟨.inr, fun h => h.resolve_left (Ne.symm before)⟩

theorem Room.set (room : Room path disk) (below : ¬ other <+: path.parent) :
    Room path (disk.set other (.file content)) := by
  intro place
  rw [Disk.node?_set]
  split
  next same => exact ⟨nofun, fun above => absurd (same ▸ above) below⟩
  next => exact room place

theorem Room.unset (room : Room path disk) (below : ¬ other <+: path.parent) :
    Room path (disk.unset other) := by
  intro place
  rw [Disk.node?_unset]
  split
  next same => exact ⟨nofun, fun above => absurd (same ▸ above) below⟩
  next => exact room place

/-- A file is not above itself. -/
theorem not_above_self (named : path.name ≠ "") : ¬ path <+: path.parent := by
  intro above
  have length := above.length_le
  rw [Path.parent, List.length_dropLast] at length
  have empty : path = [] := List.eq_nil_of_length_eq_zero (by omega)
  rw [empty] at named
  exact named rfl

theorem temporary_not_above (path : Path) (token : String) :
    ¬ temporary path token <+: path.parent := by
  intro above
  have length := above.length_le
  simp only [temporary, Path.sibling, List.length_append, List.length_singleton] at length
  omega

/-- Folders that are there are not made again. -/
theorem makeFoldersFrom_of_folders {names : List String} {above : Path}
    (there : ∀ place, place <+: above ++ names → disk.node? place = some .folder) :
    disk.makeFoldersFrom above names = .ok disk := by
  induction names generalizing above with
  | nil => rfl
  | cons name names ih =>
    have here : disk.node? (above ++ [name]) = some .folder := by
      refine there _ ⟨names, ?_⟩
      rw [List.append_assoc, List.singleton_append]
    cases names with
    | nil =>
      rw [Disk.makeFoldersFrom, Disk.makeFolder, here]
    | cons next later =>
      rw [Disk.makeFoldersFrom, here]
      refine ih fun place h => there place ?_
      rwa [List.append_assoc, List.singleton_append] at h

theorem Room.makeFolders (room : Room path disk) (above : other <+: path.parent) :
    disk.makeFolders other = .ok disk := by
  cases other with
  | nil => rfl
  | cons root names =>
    refine makeFoldersFrom_of_folders fun place h => (room place).2 ?_
    exact List.IsPrefix.trans h above

/-- A temporary file can be created next to the file. -/
theorem Room.create (room : Room path disk) (token : String) :
    disk.create (temporary path token) = .ok (disk.set (temporary path token) (.file [])) := by
  have parent : disk.node? (temporary path token).parent = some .folder := by
    rw [parent_temporary]
    exact (room _).2 List.prefix_rfl
  unfold Disk.create
  split
  next folder => exact absurd ((room _).1 folder) (temporary_not_above path token)
  next => rfl
  next => rw [parent]

/-- What is at the path can be replaced. -/
theorem Room.rename (room : Room path disk) (named : path.name ≠ "") {source : Path} {node : Node}
    (there : disk.node? source = some node) :
    disk.rename source path = .ok ((disk.unset source).set path node) := by
  unfold Disk.rename
  rw [there]
  dsimp only
  split
  next folder => exact absurd ((room _).1 folder) (not_above_self named)
  next => rfl

end

/-! ### Scripts -/

section

variable {α β : Type} {path : Path} {c c' c'' : Contents} {m m' m'' : Rough}
  {script script' : List (Option Blow)} {a : α} {b : β}

/-- A script makes a dialogue end with an answer, with contents and with a disk. -/
def Plays (path : Path) (d : Doing Step.Answer α) (c : Contents) (m : Rough)
    (script : List (Option Blow)) (a : α) (c' : Contents) (m' : Rough) : Prop :=
  ∀ later, run (onRough path) d ⟨c, { m with script := script ++ later }⟩
    = (a, ⟨c', { m' with script := later }⟩)

theorem plays_done (a : α) (c : Contents) (m : Rough) : Plays path (.done a) c m [] a c m :=
  fun _ => rfl

theorem Plays.bind {d : Doing Step.Answer α} {f : α → Doing Step.Answer β}
    (h : Plays path d c m script a c' m') (h' : Plays path (f a) c' m' script' b c'' m'') :
    Plays path (d >>= f) c m (script ++ script') b c'' m'' := by
  intro later
  rw [run_bind, List.append_assoc, h]
  exact h' later

theorem Plays.andThen {ε : Type} {d : Doing Step.Answer (Outcome ε α)}
    {f : α → Doing Step.Answer (Outcome ε β)} {outcome : Outcome ε β}
    (h : Plays path d c m script (.value a) c' m')
    (h' : Plays path (f a) c' m' script' outcome c'' m'') :
    Plays path (d.andThen f) c m (script ++ script') outcome c'' m'' :=
  Plays.bind h h'

/-- What a step of a write leaves that has done something to the disk. -/
def Rough.did (m : Rough) (disk : Disk) : Rough := { m with disk, tried := m.tried + 1 }

/-- A dialogue is one attempt on the disk. -/
def Attempts (path : Path) (d : Doing Step.Answer (Outcome Disk.Fault Unit))
    (f : Disk → Except Disk.Fault Disk) : Prop :=
  ∀ c m, run (onRough path) d ⟨c, m⟩ = ((m.attempt path f).1, ⟨c, (m.attempt path f).2⟩)

variable {d : Doing Step.Answer (Outcome Disk.Fault Unit)} {f : Disk → Except Disk.Fault Disk}

theorem Attempts.plays (h : Attempts path d f) (c : Contents) {disk : Disk}
    (done : f m.disk = .ok disk) :
    Plays path d c m [none] (.value ()) c (m.did disk) := by
  intro later
  simp [h c, Rough.attempt, done, Rough.did]

theorem Attempts.plays_blow (h : Attempts path d f) (c : Contents) (m : Rough) (blow : Blow) :
    Plays path d c m [some blow] (.failure blow.fault) c (m.did (blow.left path m.disk)) := by
  intro later
  simp [h c, Rough.attempt, Rough.did]

theorem plays_rename {source : Path} (c : Contents) {disk : Disk}
    (done : m.disk.rename source path = .ok disk) :
    Plays path (take (.rename source path)) c m [none] (.value ()) c ((m.did disk).install c) := by
  intro later
  show ((Rough.perform path c (.rename source path) _).1, World.mk c _) = _
  simp [Rough.perform, Rough.attempt, done, Rough.install, Rough.did]

theorem plays_closing {source : Path} {body : Doing Step.Answer (Outcome Disk.Fault Unit)}
    {outcome : Outcome Disk.Fault Unit} (h : Plays path body c m script outcome c m') :
    Plays path (closing source body) c m (script ++ [none]) outcome c (m'.did m'.disk) := by
  have closed : Attempts path (take (.close source)) .ok := fun _ _ => rfl
  exact h.bind ((closed.plays c rfl).bind (plays_done outcome c _))

end

/-! ### Bringing about an answer -/

section

variable {α β : Type} {path : Path} {c c' c'' : Contents} {a : α} {b : β}

/-- On a disk with room, some script makes a dialogue end with an answer and with contents, and
leaves room. -/
def Feasible (path : Path) (d : Doing Step.Answer α) (c : Contents) (a : α) (c' : Contents) :
    Prop :=
  ∀ m : Rough, Room path m.disk → ∃ script m', Room path m'.disk ∧ Plays path d c m script a c' m'

theorem feasible_done (a : α) (c : Contents) : Feasible path (.done a) c a c :=
  fun m room => ⟨[], m, room, plays_done a c m⟩

theorem Feasible.bind {d : Doing Step.Answer α} {f : α → Doing Step.Answer β}
    (h : Feasible path d c a c') (h' : Feasible path (f a) c' b c'') :
    Feasible path (d >>= f) c b c'' := by
  intro m room
  obtain ⟨script, m', room', h⟩ := h m room
  obtain ⟨script', m'', room'', h'⟩ := h' m' room'
  exact ⟨script ++ script', m'', room'', h.bind h'⟩

variable {ε : Type} {outcome : Outcome ε α} {body : Doing Step.Answer (Outcome ε α)}

theorem feasible_locked {mode : Lock.Mode} (h : Feasible path body c outcome c') :
    Feasible path (locked mode body) c outcome c' := by
  have inside : Feasible path (body >>= fun outcome => say .leave >>= fun _ => pure outcome) c
      outcome c' := h.bind (feasible_done outcome c')
  exact fun m room => inside m room

theorem feasible_inTurn (h : Feasible path body c outcome c') :
    Feasible path (inTurn body) c outcome c' := by
  have inside : Feasible path (body >>= fun outcome => say .endTurn >>= fun _ => pure outcome) c
      outcome c' := h.bind (feasible_done outcome c')
  exact fun m room => inside m room

/-! ### Writes -/

/-- Where no step fails, a write is done. -/
theorem feasible_place (named : path.name ≠ "") (token : String) (content : Bytes) (c : Contents) :
    Feasible path (place path token content) c (.value ()) c := by
  intro m room
  let source := temporary path token
  have below : ¬ source <+: path.parent := temporary_not_above path token
  let created := m.disk.set source (.file [])
  let filled := created.set source (.file content)
  have room' : Room path filled := (room.set below).set below
  have fills : created.fill source content = .ok filled := by
    rw [Disk.fill, Disk.node?_set, if_pos rfl]
  have there : filled.node? source = some (.file content) := by
    rw [Disk.node?_set, if_pos rfl]
  have makeFolders : Attempts path (take (.makeFolders path.parent)) fun disk =>
    disk.makeFolders path.parent := fun _ _ => rfl
  have create : Attempts path (take (.create source)) fun disk => disk.create source :=
    fun _ _ => rfl
  have fill : Attempts path (take (.fill source content)) fun disk => disk.fill source content :=
    fun _ _ => rfl
  have flush : Attempts path (take (.flush source)) .ok := fun _ _ => rfl
  have sync : Attempts path (take (.sync source)) .ok := fun _ _ => rfl
  let m₁ := m.did m.disk
  let m₂ := m₁.did created
  let m₃ := m₂.did filled
  let m₄ := (m₃.did filled).did filled
  let m₅ := m₄.did filled
  have body : Plays path ((take (.fill source content)).andThen fun _ =>
      (take (.flush source)).andThen fun _ => take (.sync source)) c m₂ _ (.value ()) c m₄ :=
    (fill.plays (m := m₂) c fills).andThen
      ((flush.plays (m := m₃) c rfl).andThen (sync.plays (m := m₃.did filled) c rfl))
  have installed : Plays path (install path source content) c m _ (.value ()) c _ :=
    (makeFolders.plays c (room.makeFolders List.prefix_rfl)).andThen
      ((create.plays (m := m₁) c (room.create token)).andThen
        ((plays_closing body).andThen (plays_rename (m := m₅) c (room'.rename named there))))
  exact ⟨_, _, (room'.unset below).set (not_above_self named),
    installed.bind (plays_done _ c _)⟩

/-- A write can fail with every fault of the disk. -/
theorem feasible_place_failed (path : Path) (token : String) (content : Bytes) (fault : Disk.Fault)
    (c : Contents) :
    Feasible path (place path token content) c (.failure (.storage (.unwritten path fault))) c := by
  intro m room
  have makeFolders : Attempts path (take (.makeFolders path.parent)) fun disk =>
    disk.makeFolders path.parent := fun _ _ => rfl
  have remove : Attempts path (take (.remove (temporary path token))) fun disk =>
    disk.remove (temporary path token) := fun _ _ => rfl
  -- The first step fails and leaves the disk alone, and so does the removal after it.
  let blow : Blow := ⟨fault, m.disk⟩
  have left : blow.left path m.disk = m.disk := if_pos rfl
  have stopped := makeFolders.plays_blow c m blow
  rw [left] at stopped
  have removed := remove.plays_blow c (m.did m.disk) blow
  have installed : Plays path (install path (temporary path token) content) c m
      ([some blow] ++ []) (.failure fault) c (m.did m.disk) :=
    stopped.bind (plays_done _ c _)
  refine ⟨_, _, ?_, installed.bind (removed.bind (plays_done _ c _))⟩
  show Room path (blow.left path m.disk)
  rw [left]
  exact room

/-- The word for the temporary file is drawn before the turn. -/
theorem feasible_write {outcome : Outcome Error Unit}
    (h : ∀ token, Feasible path (place path token (document c)) c outcome c) :
    Feasible path (write path c) c outcome c := by
  intro m room
  exact feasible_inTurn (h (m.words m.drawn)) { m with drawn := m.drawn + 1 } room

/-! ### Calls -/

theorem feasible_contents {f : Contents → Doing Step.Answer α} (h : Feasible path (f c) c a c') :
    Feasible path (contents >>= f) c a c' :=
  fun m room => h m room

theorem feasible_setContents {f : Unit → Doing Step.Answer α} (h : Feasible path (f ()) c' a c'') :
    Feasible path (setContents c' >>= f) c a c'' :=
  fun m room => h m room

theorem feasible_lookUp (f : Contents → α) (c : Contents) :
    Feasible path (lookUp f) c (.value (f c) : Outcome Error α) c :=
  feasible_locked (feasible_contents (feasible_done _ c))

variable {config : Config} {effect : Contents → Except Error Contents} {after : Contents}

theorem feasible_change_refused {e : Error} (h : effect c = .error e) :
    Feasible config.path (change config effect) c (.failure e) c := by
  refine feasible_locked (feasible_contents ?_)
  rw [h]
  exact feasible_done _ c

theorem feasible_change_done (named : config.path.name ≠ "") (h : effect c = .ok after) :
    Feasible config.path (change config effect) c (.value ()) after := by
  refine feasible_locked (feasible_contents ?_)
  rw [h]
  refine feasible_setContents ?_
  cases config.immediate with
  | false => exact feasible_done _ after
  | true =>
    have written := feasible_write fun token => feasible_place named token (document after) after
    exact written.bind (feasible_done _ after)

theorem feasible_change_failed (immediate : config.immediate = true) (h : effect c = .ok after)
    (fault : Disk.Fault) :
    Feasible config.path (change config effect) c
      (.failure (.storage (.unwritten config.path fault))) c := by
  refine feasible_locked (feasible_contents ?_)
  rw [h]
  refine feasible_setContents ?_
  rw [immediate]
  have failed := feasible_write fun token =>
    feasible_place_failed config.path token (document after) fault after
  exact failed.bind (feasible_setContents (feasible_done _ c))

theorem feasible_save {outcome : Outcome Error Unit}
    (h : Feasible path (write path c) c outcome c) :
    Feasible path (locked .read (contents >>= write path)) c outcome c :=
  feasible_locked (feasible_contents h)

/-! ### Calls on paths that no file can have -/

theorem feasible_writeNowhere (path : Path) (c : Contents) :
    Feasible path (writeNowhere path) c (.failure nowhere) c := by
  refine feasible_inTurn fun m room => ?_
  have makeFolders : Attempts path (take (.makeFolders (path.parent.takeWhile nameable)))
    fun disk => disk.makeFolders (path.parent.takeWhile nameable) := fun _ _ => rfl
  have made := makeFolders.plays c (room.makeFolders (List.takeWhile_prefix _))
  exact ⟨_, m.did m.disk, room, made.bind (plays_done _ c _)⟩

theorem feasible_changeNowhere_refused {e : Error} (h : effect c = .error e) :
    Feasible config.path (changeNowhere config effect) c (.failure e) c := by
  refine feasible_locked (feasible_contents ?_)
  rw [h]
  exact feasible_done _ c

theorem feasible_changeNowhere_done (immediate : config.immediate = false)
    (h : effect c = .ok after) :
    Feasible config.path (changeNowhere config effect) c (.value ()) after := by
  refine feasible_locked (feasible_contents ?_)
  rw [h]
  refine feasible_setContents ?_
  rw [immediate]
  exact feasible_done _ after

theorem feasible_changeNowhere_failed (immediate : config.immediate = true)
    (h : effect c = .ok after) :
    Feasible config.path (changeNowhere config effect) c (.failure nowhere) after := by
  refine feasible_locked (feasible_contents ?_)
  rw [h]
  refine feasible_setContents ?_
  rw [immediate]
  exact feasible_writeNowhere config.path after

end
end Telemetry.Store.File
