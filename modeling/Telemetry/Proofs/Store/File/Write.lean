import Telemetry.Proofs.Store.Effect
import Telemetry.Store.File

/-!
# Writes on a disk that fails

On a rough disk a script lets any step of a write fail.  A failed step leaves the disk in
whatever state the script says, but for the file of the store, which it leaves alone.  The disk
also notes the renames onto that file: how many there have been, and the contents at the last one.

Everything before the rename happens to the temporary file and to the folders above it, so at every
moment of a write the file is the one that was there (`Quiet`) or the one that was written
(`Renewed`).
-/

namespace Telemetry

/-! ### Files that are left alone -/

namespace Disk

/-- Making a folder leaves everything else alone. -/
theorem node?_makeFolder {disk disk' : Disk} {path other : Path}
    (h : disk.makeFolder path = .ok disk') (ne : path ≠ other) :
    disk'.node? other = disk.node? other := by
  unfold makeFolder at h
  split at h
  · cases h
    rfl
  · cases h
  · split at h
    · cases h
      rw [node?_set, if_neg ne]
    · cases h
    · cases h

/-- Making folders leaves everything alone that is further down. -/
theorem node?_makeFoldersFrom {disk disk' : Disk} {above other : Path} {names : List String}
    (h : disk.makeFoldersFrom above names = .ok disk')
    (further : above.length + names.length < other.length) :
    disk'.node? other = disk.node? other := by
  have apart {disk : Disk} {path : Path} (shorter : path.length < other.length) :
      (disk.set path .folder).node? other = disk.node? other := by
    rw [node?_set, if_neg]
    rintro rfl
    exact Nat.lt_irrefl _ shorter
  -- The induction is on the folders to come; each is put at a path shorter than `other`.
  induction names generalizing disk above with
  | nil => cases h; rfl
  | cons name later ih =>
    cases later with
    | nil =>
      refine node?_makeFolder h ?_
      rintro rfl
      simp at further
    | cons next later =>
      have further' : (above ++ [name]).length + (next :: later).length < other.length := by
        simpa [Nat.add_assoc, Nat.add_comm 1] using further
      rw [makeFoldersFrom] at h
      split at h
      · exact ih h further'
      · cases h
      · rw [ih h further', apart (Nat.lt_of_le_of_lt (Nat.le_add_right _ _) further')]

/-- Making folders above a path leaves it alone. -/
theorem node?_makeFolders {disk disk' : Disk} {above path : Path} (prefixed : above <+: path.parent)
    (h : disk.makeFolders above = .ok disk') : disk'.node? path = disk.node? path := by
  cases above with
  | nil => cases h; rfl
  | cons root names =>
    refine node?_makeFoldersFrom h ?_
    have length := prefixed.length_le
    rw [Path.parent, List.length_dropLast, List.length_cons] at length
    simp only [List.length_cons, List.length_nil]
    omega

theorem node?_makeFolders_parent {disk disk' : Disk} {path : Path}
    (h : disk.makeFolders path.parent = .ok disk') : disk'.node? path = disk.node? path :=
  node?_makeFolders List.prefix_rfl h

theorem create_eq {disk disk' : Disk} {path : Path} (h : disk.create path = .ok disk') :
    disk' = disk.set path (.file []) := by
  unfold create at h
  split at h
  · cases h
  · exact (Except.ok.inj h).symm
  · split at h
    · exact (Except.ok.inj h).symm
    · cases h
    · cases h

theorem fill_eq {disk disk' : Disk} {path : Path} {content : Bytes}
    (h : disk.fill path content = .ok disk') : disk' = disk.set path (.file content) := by
  unfold fill at h
  split at h
  · exact (Except.ok.inj h).symm
  · cases h

theorem rename_eq {disk disk' : Disk} {source target : Path} {node : Node}
    (there : disk.node? source = some node) (h : disk.rename source target = .ok disk') :
    disk' = (disk.unset source).set target node := by
  unfold rename at h
  rw [there] at h
  dsimp only at h
  split at h
  · cases h
  · exact (Except.ok.inj h).symm

theorem remove_eq {disk disk' : Disk} {path : Path} (h : disk.remove path = .ok disk') :
    disk' = disk.unset path := by
  unfold remove at h
  split at h
  · cases h
  · cases h
  · exact (Except.ok.inj h).symm

end Disk

namespace Store.File

open Dialogue

theorem temporary_ne (path : Path) (token : String) : temporary path token ≠ path := by
  intro h
  -- Equal paths have equal names, and the name of a temporary file is longer.
  have name : path.name = "." ++ path.name ++ "." ++ token ++ ".tmp" := by
    have last := congrArg (fun p => List.getLastD p "") h
    simpa [temporary, Path.sibling, Path.name] using last.symm
  have length := congrArg String.length name
  simp only [String.length_append] at length
  have one : ".".length = 1 := rfl
  omega

theorem parent_temporary (path : Path) (token : String) :
    (temporary path token).parent = path.parent := by
  simp [temporary, Path.sibling, Path.parent]

/-! ### Rough disks -/

/-- What a step meets that fails: its fault, and the disk that it leaves. -/
structure Blow where
  fault : Disk.Fault
  wreck : Disk

/-- What a failed step leaves of a disk: the wreck, unless that touches the file at a path. -/
def Blow.left (blow : Blow) (path : Path) (disk : Disk) : Disk :=
  if blow.wreck.node? path = disk.node? path then blow.wreck else disk

/-- A disk on which the steps of writes may fail. -/
structure Rough where
  disk : Disk
  /-- What the steps to come meet, in order.  Those past the end do what they do on the disk. -/
  script : List (Option Blow) := []
  /-- The words for the names of temporary files. -/
  words : Nat → String
  drawn : Nat := 0
  /-- The number of steps of writes that have been tried. -/
  tried : Nat := 0
  /-- The contents at the last rename onto the file of the store. -/
  installed : Contents
  /-- The number of renames onto the file of the store. -/
  renamed : Nat := 0

/-- Do something on the disk, unless the script lets it fail. -/
def Rough.attempt (m : Rough) (path : Path) (f : Disk → Except Disk.Fault Disk) :
    Outcome Disk.Fault Unit × Rough :=
  match m.script with
  | some blow :: script =>
      (.failure blow.fault,
        { m with disk := blow.left path m.disk, script, tried := m.tried + 1 })
  | _ =>
      match f m.disk with
      | .ok disk => (.value (), { m with disk, script := m.script.tail, tried := m.tried + 1 })
      | .error fault => (.failure fault, { m with script := m.script.tail, tried := m.tried + 1 })

/-- Take down that contents have been installed. -/
def Rough.install (m : Rough) (c : Contents) : Rough :=
  { m with installed := c, renamed := m.renamed + 1 }

/-- Take a step on a rough disk, for a store with a path and its current contents. -/
def Rough.perform (path : Path) (current : Contents) : (s : Step) → Rough → s.Answer × Rough
  | .token, m => (m.words m.drawn, { m with drawn := m.drawn + 1 })
  | .occupied other, m => (m.disk.occupied other, m)
  | .read other, m => (Outcome.ofExcept (m.disk.read other), m)
  | .makeFolders other, m => m.attempt path fun disk => disk.makeFolders other
  | .create other, m => m.attempt path fun disk => disk.create other
  | .fill other content, m => m.attempt path fun disk => disk.fill other content
  | .flush _, m => m.attempt path .ok
  | .sync _, m => m.attempt path .ok
  | .close _, m => m.attempt path .ok
  | .rename source target, m =>
      match m.attempt path fun disk => disk.rename source target with
      | (.value (), m) => (.value (), if target = path then m.install current else m)
      | result => result
  | .remove other, m => m.attempt path fun disk => disk.remove other

/-- Answer the questions of a file store on a rough disk. -/
def onRough (path : Path) (q : Question Step) (w : World Rough) :
    Answer Step.Answer q × World Rough :=
  alone (Rough.perform path w.contents) q w

/-- The same renames have been taken down. -/
structure Rough.SameRenames (m m' : Rough) : Prop where
  installed : m'.installed = m.installed
  renamed : m'.renamed = m.renamed

theorem Rough.SameRenames.refl (m : Rough) : m.SameRenames m := ⟨rfl, rfl⟩

theorem Rough.SameRenames.trans {m m' m'' : Rough} (h : m.SameRenames m')
    (h' : m'.SameRenames m'') : m.SameRenames m'' :=
  ⟨h'.installed.trans h.installed, h'.renamed.trans h.renamed⟩

theorem Rough.SameRenames.install {m m' : Rough} (h : m.SameRenames m') (c : Contents) :
    (m.install c).SameRenames (m'.install c) :=
  ⟨rfl, congrArg (· + 1) h.renamed⟩

/-- What may come of a step of a write: it is done, or it fails and leaves the file at the path
alone.  If it is done, the renames are those of `noted`. -/
inductive Did (path : Path) (f : Disk → Except Disk.Fault Disk) (m noted : Rough) :
    Outcome Disk.Fault Unit → Rough → Prop
  | done {m' : Rough} (h : f m.disk = .ok m'.disk) (renames : noted.SameRenames m') :
      Did path f m noted (.value ()) m'
  | failed {m' : Rough} (fault : Disk.Fault) (node : m'.disk.node? path = m.disk.node? path)
      (renames : m.SameRenames m') : Did path f m noted (.failure fault) m'

/-- What may come of a step on a rough disk. -/
def Rough.may (path : Path) : (s : Step) → World Rough → s.Answer → Rough → Prop
  | .token, w, _, m => m.disk = w.medium.disk ∧ w.medium.SameRenames m
  | .occupied other, w, there, m =>
      (there : Bool) = w.medium.disk.occupied other ∧ m.disk = w.medium.disk
        ∧ w.medium.SameRenames m
  | .read other, w, content, m =>
      content = Outcome.ofExcept (w.medium.disk.read other) ∧ m.disk = w.medium.disk
        ∧ w.medium.SameRenames m
  | .makeFolders other, w, outcome, m =>
      Did path (fun disk => disk.makeFolders other) w.medium w.medium outcome m
  | .create other, w, outcome, m =>
      Did path (fun disk => disk.create other) w.medium w.medium outcome m
  | .fill other content, w, outcome, m =>
      Did path (fun disk => disk.fill other content) w.medium w.medium outcome m
  | .flush _, w, outcome, m => Did path .ok w.medium w.medium outcome m
  | .sync _, w, outcome, m => Did path .ok w.medium w.medium outcome m
  | .close _, w, outcome, m => Did path .ok w.medium w.medium outcome m
  | .rename source target, w, outcome, m =>
      Did path (fun disk => disk.rename source target) w.medium
        (if target = path then w.medium.install w.contents else w.medium) outcome m
  | .remove other, w, outcome, m =>
      Did path (fun disk => disk.remove other) w.medium w.medium outcome m

theorem Blow.node?_left (blow : Blow) (path : Path) (disk : Disk) :
    (blow.left path disk).node? path = disk.node? path := by
  unfold left
  split
  next h => exact h
  next => rfl

theorem did_attempt (m : Rough) (path : Path) (f : Disk → Except Disk.Fault Disk) :
    Did path f m m (m.attempt path f).1 (m.attempt path f).2 := by
  unfold Rough.attempt
  split
  · exact .failed _ (Blow.node?_left _ path m.disk) ⟨rfl, rfl⟩
  · split
    next h => exact .done h ⟨rfl, rfl⟩
    next => exact .failed _ rfl ⟨rfl, rfl⟩

theorem Rough.may_perform (path : Path) (w : World Rough) (s : Step) :
    may path s w (perform path w.contents s w.medium).1
      (perform path w.contents s w.medium).2 := by
  cases s with
  | token => exact ⟨rfl, rfl, rfl⟩
  | occupied other => exact ⟨rfl, rfl, rfl, rfl⟩
  | read other => exact ⟨rfl, rfl, rfl, rfl⟩
  | makeFolders | create | fill | flush | sync | close | remove => exact did_attempt w.medium path _
  | rename source target =>
    have did := did_attempt w.medium path fun disk => disk.rename source target
    simp only [perform]
    split
    next m heq =>
      rw [heq] at did
      cases did with
      | done h renames =>
        split
        next onto => exact .done h (by rw [if_pos onto]; exact renames.install _)
        next elsewhere => exact .done h (by rw [if_neg elsewhere]; exact renames)
    next heq =>
      generalize hresult : w.medium.attempt path (fun disk => disk.rename source target) = result
      rw [hresult] at did heq
      obtain ⟨outcome, m⟩ := result
      cases did with
      | done => exact (heq m rfl).elim
      | failed fault node renames => exact .failed fault node renames

/-- A rough disk answers what may come of questions. -/
theorem within_onRough (path : Path) (q : Question Step) (w : World Rough) :
    within (Rough.may path) q w (onRough path q w).1 (onRough path q w).2 :=
  within_alone (Rough.may_perform path w) q

/-! ### One write -/

section

variable {path : Path} {w w₁ w₂ : World Rough}

/-- Nothing has come of a write yet. -/
structure Quiet (path : Path) (w w' : World Rough) : Prop where
  contents : w'.contents = w.contents
  node : w'.medium.disk.node? path = w.medium.disk.node? path
  renames : w.medium.SameRenames w'.medium

/-- The contents have been installed. -/
structure Renewed (path : Path) (w w' : World Rough) : Prop where
  contents : w'.contents = w.contents
  node : w'.medium.disk.node? path = some (.file (document w.contents))
  installed : w'.medium.installed = w.contents
  renamed : w.medium.renamed < w'.medium.renamed

/-- A step leaves the file alone, or renews it. -/
def Turned (path : Path) (w w' : World Rough) : Prop := Quiet path w w' ∨ Renewed path w w'

theorem Quiet.refl (path : Path) (w : World Rough) : Quiet path w w :=
  ⟨rfl, rfl, Rough.SameRenames.refl _⟩

theorem Quiet.trans (h : Quiet path w w₁) (h' : Quiet path w₁ w₂) : Quiet path w w₂ :=
  ⟨h'.contents.trans h.contents, h'.node.trans h.node, h.renames.trans h'.renames⟩

theorem Quiet.installed (h : Quiet path w w₁) : w₁.medium.installed = w.medium.installed :=
  h.renames.installed

/-- What is quiet after a renewal leaves it renewed. -/
theorem Renewed.quiet (h : Renewed path w w₁) (h' : Quiet path w₁ w₂) : Renewed path w w₂ where
  contents := h'.contents.trans h.contents
  node := h'.node.trans h.node
  installed := h'.installed.trans h.installed
  renamed := h'.renames.renamed ▸ h.renamed

/-- What renews the file after something quiet has renewed it. -/
theorem Quiet.renewed (h : Quiet path w w₁) (h' : Renewed path w₁ w₂) : Renewed path w w₂ where
  contents := h'.contents.trans h.contents
  node := h.contents ▸ h'.node
  installed := h'.installed.trans h.contents
  renamed := h.renames.renamed ▸ h'.renamed

theorem Renewed.trans (h : Renewed path w w₁) (h' : Renewed path w₁ w₂) : Renewed path w w₂ where
  contents := h'.contents.trans h.contents
  node := h.contents ▸ h'.node
  installed := h'.installed.trans h.contents
  renamed := Nat.lt_trans h.renamed h'.renamed

theorem Turned.trans (h : Turned path w w₁) (h' : Turned path w₁ w₂) : Turned path w w₂ := by
  rcases h with quiet | renewed <;> rcases h' with quiet' | renewed'
  · exact .inl (quiet.trans quiet')
  · exact .inr (quiet.renewed renewed')
  · exact .inr (renewed.quiet quiet')
  · exact .inr (renewed.trans renewed')

/-- A step that spares the file at the path is quiet, and leaves what it makes of the disk. -/
theorem Did.quiet {f : Disk → Except Disk.Fault Disk} {outcome : Outcome Disk.Fault Unit}
    {m : Rough} (spares : ∀ disk', f w.medium.disk = .ok disk' →
      disk'.node? path = w.medium.disk.node? path)
    (h : Did path f w.medium w.medium outcome m) :
    Quiet path w { w with medium := m } ∧
      Ends (fun _ w' => f w.medium.disk = .ok w'.medium.disk) (fun _ _ => True) outcome
        { w with medium := m } := by
  cases h with
  | done h renames => exact ⟨⟨rfl, spares _ h, renames⟩, h⟩
  | failed fault node renames => exact ⟨⟨rfl, node, renames⟩, trivial⟩

/-- A step of the store is known by what may come of it. -/
theorem stepwise_take {s : Step} {after : s.Answer → World Rough → Prop}
    (h : ∀ answer m, Rough.may path s w answer m →
      Turned path w { w with medium := m } ∧ after answer { w with medium := m }) :
    Stepwise (within (Rough.may path)) (Turned path) after (take s) w := by
  rintro answer ⟨c, m⟩ ⟨hc, hm⟩
  cases hc
  exact h answer m hm

/-- A quiet step of a write in which nothing has happened yet. -/
theorem stepwise_quiet {s : Step} {after : s.Answer → World Rough → Prop}
    (quiet : Quiet path w w₁) (h : ∀ answer m, Rough.may path s w₁ answer m →
      Quiet path w₁ { w₁ with medium := m } ∧ after answer { w₁ with medium := m }) :
    Stepwise (within (Rough.may path)) (Turned path)
      (fun answer w' => Quiet path w w' ∧ after answer w') (take s) w₁ :=
  stepwise_take fun answer m hm =>
    ⟨.inl (h answer m hm).1, quiet.trans (h answer m hm).1, (h answer m hm).2⟩

def Filled (temporary : Path) (content : Bytes) (w : World Rough) : Prop :=
  w.medium.disk.node? temporary = some (.file content)

variable {temporary : Path} {content : Bytes}

/-- Filling the temporary file spares the target. -/
theorem stepwise_fill (ne : temporary ≠ path) (quiet : Quiet path w w₁) :
    Stepwise (within (Rough.may path)) (Turned path)
      (Ends (fun _ w' => Quiet path w w' ∧ Filled temporary content w')
        fun _ w' => Quiet path w w')
      (take (.fill temporary content)) w₁ := by
  have spares (disk' : Disk) (h : w₁.medium.disk.fill temporary content = .ok disk') :
      disk'.node? path = w₁.medium.disk.node? path := by
    rw [Disk.fill_eq h, Disk.node?_set, if_neg ne]
  have filled := stepwise_quiet (s := .fill temporary content) quiet fun _ _ hm =>
    Did.quiet (f := fun disk => disk.fill temporary content) spares hm
  refine filled.mono ?_
  rintro outcome w₂ ⟨quiet', h⟩
  cases outcome with
  | value =>
    refine ⟨quiet', ?_⟩
    rw [Filled, Disk.fill_eq h, Disk.node?_set, if_pos rfl]
  | failure => exact quiet'
  | cancelled => exact h.elim

/-- To flush, to sync and to close change nothing. -/
theorem Did.filled {outcome : Outcome Disk.Fault Unit} {m : Rough}
    (filled : Filled temporary content w₁)
    (h : Did path .ok w₁.medium w₁.medium outcome m) :
    Quiet path w₁ { w₁ with medium := m } ∧
      Ends (fun _ w' => Filled temporary content w') (fun _ _ => True) outcome
        { w₁ with medium := m } := by
  obtain ⟨quiet, ends⟩ := Did.quiet (fun disk' h => by rw [Except.ok.inj h]) h
  refine ⟨quiet, ?_⟩
  cases h with
  | done h => rw [Ends, Filled, ← Except.ok.inj h]; exact filled
  | failed => trivial

/-- **The temporary file holds the content** once it has been filled, flushed, synced and closed. -/
theorem stepwise_closing (ne : temporary ≠ path) (quiet : Quiet path w w₁) :
    Stepwise (within (Rough.may path)) (Turned path)
      (Ends (fun _ w' => Quiet path w w' ∧ Filled temporary content w')
        fun _ w' => Quiet path w w')
      (closing temporary
        ((take (.fill temporary content)).andThen fun _ =>
        (take (.flush temporary)).andThen fun _ =>
        take (.sync temporary))) w₁ := by
  -- What a step on a filled file comes to, put in terms of the whole write.
  have ends {outcome : Outcome Disk.Fault Unit} {w₂ : World Rough} (quiet' : Quiet path w w₂)
      (h : Ends (fun _ w' => Filled temporary content w') (fun _ _ => True) outcome w₂) :
      Ends (fun _ w' => Quiet path w w' ∧ Filled temporary content w')
        (fun _ w' => Quiet path w w') outcome w₂ := by
    cases outcome with
    | value => exact ⟨quiet', h⟩
    | failure => exact quiet'
    | cancelled => exact h.elim
  have body : Stepwise (within (Rough.may path)) (Turned path)
      (Ends (fun _ w' => Quiet path w w' ∧ Filled temporary content w')
        fun _ w' => Quiet path w w')
      ((take (.fill temporary content)).andThen fun _ =>
        (take (.flush temporary)).andThen fun _ =>
        take (.sync temporary)) w₁ := by
    refine (stepwise_fill ne quiet).andThen_ends (fun _ w₂ h₂ => ?_) fun _ _ h => h
    have flushed := stepwise_quiet (s := .flush temporary) h₂.1 fun _ _ hm => Did.filled h₂.2 hm
    refine (flushed.mono fun _ _ h => ends h.1 h.2).andThen_ends (fun _ w₃ h₃ => ?_)
      fun _ _ h => h
    have synced := stepwise_quiet (s := .sync temporary) h₃.1 fun _ _ hm => Did.filled h₃.2 hm
    exact synced.mono fun _ _ h => ends h.1 h.2
  -- The file is closed whether or not the body failed; if it did, that is the failure reported.
  refine stepwise_bind.2 (body.mono fun outcome w₂ h₂ => stepwise_bind.2 ?_)
  cases outcome with
  | value =>
    have closed := stepwise_quiet (s := .close temporary) h₂.1 fun _ _ hm => Did.filled h₂.2 hm
    refine closed.mono fun answer w₃ h₃ => ?_
    cases answer with
    | value => exact h₃
    | failure => exact h₃.1
    | cancelled => exact h₃.2.elim
  | failure e =>
    have closed := stepwise_quiet (s := .close temporary) h₂ fun _ _ hm =>
      Did.quiet (fun disk' h => by rw [Except.ok.inj h]) hm
    refine closed.mono fun answer w₃ h₃ => ?_
    cases answer with
    | value => exact h₃.1
    | failure => exact h₃.1
    | cancelled => exact h₃.2.elim
  | cancelled => exact h₂.elim

/-- The rename puts the content of the temporary file at the path. -/
theorem stepwise_rename (quiet : Quiet path w w₁)
    (filled : Filled temporary (document w.contents) w₁) :
    Stepwise (within (Rough.may path)) (Turned path)
      (Ends (fun _ w' => Renewed path w w') fun _ w' => Quiet path w w')
      (take (.rename temporary path)) w₁ := by
  refine stepwise_take (s := Step.rename temporary path) fun outcome m hm => ?_
  cases hm with
  | done h renames =>
    -- Nothing before the rename has changed the contents, so what is installed is the document
    -- that was drawn up for them.
    have node : m.disk.node? path = some (.file (document w₁.contents)) := by
      rw [Disk.rename_eq filled h, Disk.node?_set, if_pos rfl, quiet.contents]
    rw [if_pos rfl] at renames
    have renewed : Renewed path w₁ { w₁ with medium := m } :=
      ⟨rfl, node, renames.installed, renames.renamed ▸ Nat.lt_succ_self _⟩
    exact ⟨.inr renewed, quiet.renewed renewed⟩
  | failed fault node renames =>
    have quiet' : Quiet path w₁ { w₁ with medium := m } := ⟨rfl, node, renames⟩
    exact ⟨.inl quiet', quiet.trans quiet'⟩

/-- **The file is renewed by the rename and by no other step.** -/
theorem stepwise_install (ne : temporary ≠ path) (w : World Rough) :
    Stepwise (within (Rough.may path)) (Turned path)
      (Ends (fun _ w' => Renewed path w w') fun _ w' => Quiet path w w')
      (install path temporary (document w.contents)) w := by
  have quietly {outcome : Outcome Disk.Fault Unit} {done : World Rough → Prop} {w₂ : World Rough}
      (h : Quiet path w w₂ ∧ Ends (fun _ => done) (fun _ _ => True) outcome w₂) :
      Ends (fun _ w' => Quiet path w w') (fun _ w' => Quiet path w w') outcome w₂ := by
    cases outcome with
    | value => exact h.1
    | failure => exact h.1
    | cancelled => exact h.2.elim
  have made := stepwise_quiet (s := .makeFolders path.parent) (Quiet.refl path w) fun _ _ hm =>
    Did.quiet (f := fun disk => disk.makeFolders path.parent)
      (fun _ h => Disk.node?_makeFolders_parent h) hm
  refine (made.mono fun _ _ h => quietly h).andThen_ends (fun _ w₂ h₂ => ?_) fun _ _ h => h
  have spares (disk' : Disk) (h : w₂.medium.disk.create temporary = .ok disk') :
      disk'.node? path = w₂.medium.disk.node? path := by
    rw [Disk.create_eq h, Disk.node?_set, if_neg ne]
  have created := stepwise_quiet (s := .create temporary) h₂ fun _ _ hm =>
    Did.quiet (f := fun disk => disk.create temporary) spares hm
  refine (created.mono fun _ _ h => quietly h).andThen_ends (fun _ w₃ h₃ => ?_) fun _ _ h => h
  refine (stepwise_closing ne h₃).andThen_ends (fun _ w₄ h₄ => ?_) fun _ _ h => h
  exact stepwise_rename h₄.1 h₄.2

/-- **A file is renewed, or its write fails with a storage fault** and leaves it as it was. -/
theorem stepwise_place (path : Path) (token : String) (w : World Rough) :
    Stepwise (within (Rough.may path)) (Turned path)
      (Ends (fun _ w' => Renewed path w w')
        fun e w' => (∃ fault, e = .storage (.unwritten path fault)) ∧ Quiet path w w')
      (place path token (document w.contents)) w := by
  have ne := temporary_ne path token
  refine stepwise_bind.2 ((stepwise_install ne w).mono fun outcome w₂ h₂ => ?_)
  cases outcome with
  | value => exact h₂
  | cancelled => exact h₂.elim
  | failure fault =>
    have spares (disk' : Disk) (h : w₂.medium.disk.remove (temporary path token) = .ok disk') :
        disk'.node? path = w₂.medium.disk.node? path := by
      rw [Disk.remove_eq h, Disk.node?_unset, if_neg ne]
    have removed := stepwise_quiet (s := .remove (temporary path token)) h₂ fun _ _ hm =>
      Did.quiet (f := fun disk => disk.remove (temporary path token)) spares hm
    refine stepwise_bind.2 (removed.mono fun answer w₃ h₃ => ?_)
    cases answer with
    | value => exact ⟨⟨_, rfl⟩, h₃.1⟩
    | failure => exact ⟨⟨_, rfl⟩, h₃.1⟩
    | cancelled => exact h₃.2.elim

theorem asks_take (s : Step) : (take s).Asks fun q => ∃ s, q = .step s :=
  ⟨⟨s, rfl⟩, fun _ => trivial⟩

theorem asks_install (target temporary : Path) (content : Bytes) :
    (install target temporary content).Asks fun q => ∃ s, q = .step s := by
  have filled : (closing temporary ((take (.fill temporary content)).andThen fun _ =>
      (take (.flush temporary)).andThen fun _ => take (.sync temporary))).Asks
      fun q => ∃ s, q = .step s := by
    refine asks_bind ?_ fun outcome => asks_bind (asks_take _) fun closed => ?_
    · exact asks_andThen (asks_take _) fun _ => asks_andThen (asks_take _) fun _ => asks_take _
    · cases closed <;> trivial
  exact asks_andThen (asks_take _) fun _ => asks_andThen (asks_take _) fun _ =>
    asks_andThen filled fun _ => asks_take _

/-- A file is written in steps of the disk alone. -/
theorem asks_place (path : Path) (token : String) (content : Bytes) :
    (place path token content).Asks fun q => ∃ s, q = .step s := by
  refine asks_bind (asks_install _ _ _) fun outcome => ?_
  cases outcome with
  | value | cancelled => trivial
  | failure fault =>
    refine asks_bind (asks_take _) fun removed => ?_
    cases removed <;> trivial

/-- To draw a token leaves the disk alone. -/
theorem stepwise_token (path : Path) (w : World Rough) :
    Stepwise (within (Rough.may path)) (Turned path) (fun _ w' => Quiet path w w')
      (take .token) w := by
  refine stepwise_take (s := Step.token) ?_
  rintro token m ⟨hdisk, renames⟩
  have quiet : Quiet path w { w with medium := m } := ⟨rfl, by rw [hdisk], renames⟩
  exact ⟨.inl quiet, quiet⟩

/-- **A write renews the file, or fails with a storage fault** and leaves it as it was. -/
theorem always_write (path : Path) (w : World Rough) :
    Always (within (Rough.may path)) (Turned path w)
      (Ends (fun _ w' => Renewed path w w')
        fun e w' => (∃ fault, e = .storage fault) ∧ Quiet path w w')
      (write path w.contents) w := by
  have start : Turned path w w := .inl (Quiet.refl path w)
  have drawn := (stepwise_token path w).always (fun _ _ => Turned.trans) start
  refine always_bind.2 (drawn.mono fun token w₁ now quiet => always_inTurn ?_)
  have placed := stepwise_place path token w₁
  rw [quiet.contents] at placed
  refine (placed.always (fun _ _ => Turned.trans) now).mono fun outcome w₂ _ h₂ => ?_
  cases outcome with
  | value => exact quiet.renewed h₂
  | failure e =>
    obtain ⟨⟨fault, rfl⟩, quiet'⟩ := h₂
    exact ⟨⟨_, rfl⟩, quiet.trans quiet'⟩
  | cancelled => exact h₂.elim

/-- **A write that leads nowhere fails**, and makes folders at most. -/
theorem always_writeNowhere (path : Path) (w : World Rough) :
    Always (within (Rough.may path)) (Quiet path w)
      (fun outcome w' => outcome = .failure nowhere ∧ Quiet path w w') (writeNowhere path) w := by
  have now := Quiet.refl path w
  refine always_inTurn (always_bind.2 (always_step now fun outcome m did => ?_))
  have spares (disk' : Disk)
      (h : w.medium.disk.makeFolders (path.parent.takeWhile nameable) = .ok disk') :
      disk'.node? path = w.medium.disk.node? path :=
    Disk.node?_makeFolders (List.takeWhile_prefix _) h
  have quiet := (Did.quiet spares did).1
  cases did with
  | done | failed => exact ⟨quiet, quiet, rfl, quiet⟩

end

end Store.File
end Telemetry
