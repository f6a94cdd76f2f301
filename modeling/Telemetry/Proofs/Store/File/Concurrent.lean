import Mathlib.Algebra.BigOperators.Group.List.Basic
import Telemetry.Proofs.Store.File.Calls
import Telemetry.Proofs.Store.File.Feasible
import Telemetry.Proofs.Store.File.Shared
import Telemetry.Proofs.Store.Gather

/-!
# Calls of a file store at the same time

However calls of a file store are interleaved, and whichever steps of its writes fail, the calls
might as well have been made one after the other (`serializes_endings`): in the order in which they
end, they get the same replies and leave the same contents when each of them works alone on some
disk.  Nobody reads what a failed write has not kept, and no counter has it.

A store that writes at once where no file can be is the exception (`serializable_iff`): an update
fails there, and its counter has it all the same (`Lost`).

Snapshots that are drawn up wait for their turn to be written.  Whenever one is renamed over the
file all the same, it is that of the contents at this moment: the call that has drawn it up is still
inside the lock.
-/

namespace Telemetry.Store.File

open Crowd Dialogue

/-! ### Calls among others -/

section

variable {config : Config} {call : Call} {c c' : Contents} {answer : call.Answer}

/-- A call has failed on its way to a write, and has its effect. -/
def Strayed (config : Config) (call : Call) (c : Contents) (answer : call.Answer)
    (c' : Contents) : Prop :=
  config.WritesFor call ∧ answer = .failure nowhere ∧ call.effect c = .ok c'

/-- How a call may be answered among others: as it can be alone, and as its effect is, unless it
goes astray. -/
structure Answers (config : Config) (call : Call) (c : Contents) (answer : call.Answer)
    (c' : Contents) : Prop where
  feasible : Feasible config.path (serveAt config call) c answer c'
  served : Served call.effect call.found c answer c' ∨
    config.path.all nameable = false ∧ Strayed config call c answer c'

theorem answers_of_nameable (possible : config.path.all nameable = true)
    (feasible : Feasible config.path (serve config call) c answer c')
    (served : Served call.effect call.found c answer c') : Answers config call c answer c' := by
  refine ⟨?_, .inl served⟩
  rw [serveAt, if_pos possible]
  exact feasible

theorem answers_of_not_nameable (impossible : config.path.all nameable = false)
    (feasible : Feasible config.path (serveNowhere config call) c answer c')
    (served : Served call.effect call.found c answer c' ∨ Strayed config call c answer c') :
    Answers config call c answer c' := by
  refine ⟨?_, served.imp_right fun strayed => ⟨impossible, strayed⟩⟩
  rw [serveAt, if_neg (by rw [impossible]; exact Bool.false_ne_true)]
  exact feasible

/-- A change is answered as it can be alone. -/
theorem orderly_change_alone (named : config.path.name ≠ "")
    (effect : Contents → Except Error Contents)
    {served : Contents → Outcome Error Unit → Contents → Prop}
    (h : ∀ c outcome c', Feasible config.path (change config effect) c outcome c' →
      Served effect (fun _ => ()) c outcome c' → served c outcome c') (w : World Rough) :
    Orderly (sharing config.path) (Settled served) (change config effect) .outside w := by
  refine orderly_change (fun c e refused => ?_) (fun c after done => ?_)
    fun immediate c after fault done => ?_
  · exact h _ _ _ (feasible_change_refused refused) (.refused refused)
  · exact h _ _ _ (feasible_change_done named done) (.done done)
  · exact h _ _ _ (feasible_change_failed immediate done fault) (.failed done _)

/-- **Every call is orderly**, and answered as it can be alone. -/
theorem orderly_serve (possible : config.path.all nameable = true)
    (named : config.path.name ≠ "") (call : Call) (w : World Rough) :
    Orderly (sharing config.path) (Settled (Answers config call)) (serve config call)
      .outside w := by
  have answers (call : Call) (c : Contents) (answer : call.Answer) (c' : Contents)
      (feasible : Feasible config.path (serve config call) c answer c')
      (served : Served call.effect call.found c answer c') : Answers config call c answer c' :=
    answers_of_nameable possible feasible served
  cases call with
  | updateGauge name value =>
    exact orderly_change_alone named (Call.updateGauge name value).effect
      (answers (.updateGauge name value)) w
  | updateCounter name delta =>
    exact orderly_change_alone named (Call.updateCounter name delta).effect
      (answers (.updateCounter name delta)) w
  | setCounter name value =>
    exact orderly_change_alone named (Call.setCounter name value).effect
      (answers (.setCounter name value)) w
  | getGauge | getCounter | getAll =>
    exact orderly_lookUp fun c => answers _ _ _ _ (feasible_lookUp _ c) (.done rfl)
  | save =>
    refine orderly_save (fun c => ?_) fun c fault => ?_
    · have written := feasible_write fun token => feasible_place named token (document c) c
      exact answers .save _ _ _ (feasible_save written) (.done rfl)
    · have failed := feasible_write fun token =>
        feasible_place_failed config.path token (document c) fault c
      exact answers .save _ _ _ (feasible_save failed) (.failed rfl _)
  | ping => exact fun c => answers .ping _ _ _ (feasible_done _ c) (.failed rfl _)

theorem orderly_changeNowhere_alone (config : Config) (effect : Contents → Except Error Contents)
    {served : Contents → Outcome Error Unit → Contents → Prop}
    (h : ∀ c outcome c', Feasible config.path (changeNowhere config effect) c outcome c' →
      Served effect (fun _ => ()) c outcome c' ∨
        config.immediate = true ∧ outcome = .failure nowhere ∧ effect c = .ok c' →
        served c outcome c') (w : World Rough) :
    Orderly (sharing config.path) (Settled served) (changeNowhere config effect) .outside w := by
  refine orderly_changeNowhere (fun c e refused => ?_) (fun immediate c after done => ?_)
    fun immediate c after done => ?_
  · exact h _ _ _ (feasible_changeNowhere_refused refused) (.inl (.refused refused))
  · exact h _ _ _ (feasible_changeNowhere_done immediate done) (.inl (.done done))
  · exact h _ _ _ (feasible_changeNowhere_failed immediate done) (.inr ⟨immediate, rfl, done⟩)

theorem orderly_serveNowhere (impossible : config.path.all nameable = false) (call : Call)
    (w : World Rough) :
    Orderly (sharing config.path) (Settled (Answers config call)) (serveNowhere config call)
      .outside w := by
  have answers (call : Call) (c : Contents) (answer : call.Answer) (c' : Contents)
      (feasible : Feasible config.path (serveNowhere config call) c answer c')
      (served : Served call.effect call.found c answer c' ∨ Strayed config call c answer c') :
      Answers config call c answer c' :=
    answers_of_not_nameable impossible feasible served
  cases call with
  | updateGauge name value =>
    exact orderly_changeNowhere_alone config (Call.updateGauge name value).effect
      (answers (.updateGauge name value)) w
  | updateCounter name delta =>
    exact orderly_changeNowhere_alone config (Call.updateCounter name delta).effect
      (answers (.updateCounter name delta)) w
  | setCounter name value =>
    exact orderly_changeNowhere_alone config (Call.setCounter name value).effect
      (answers (.setCounter name value)) w
  | getGauge | getCounter | getAll =>
    exact orderly_lookUp fun c => answers _ _ _ _ (feasible_lookUp _ c) (.inl (.done rfl))
  | save =>
    exact orderly_saveNowhere fun c =>
      answers .save _ _ _ (feasible_locked (feasible_writeNowhere config.path c))
        (.inr ⟨trivial, rfl, rfl⟩)
  | ping => exact fun c => answers .ping _ _ _ (feasible_done _ c) (.inl (.failed rfl _))

theorem orderly_serveAt (named : config.path.name ≠ "") (call : Call) (w : World Rough) :
    Orderly (sharing config.path) (Settled (Answers config call)) (serveAt config call)
      .outside w := by
  cases h : config.path.all nameable with
  | true =>
    rw [serveAt, if_pos h]
    exact orderly_serve h named call w
  | false =>
    rw [serveAt, if_neg (by rw [h]; exact Bool.false_ne_true)]
    exact orderly_serveNowhere h call w

end

/-! ### Calls at the same time -/

/-- Take a step on a rough disk, with the contents that there are at that moment. -/
def performAmong (path : Path) (s : Step) (w : World Rough) : s.Answer × Rough :=
  Rough.perform path w.contents s w.medium

/-- Whether the moves can happen to a store that nobody has called. -/
def Interleaves (config : Config) (start : World Rough) (moves : List Move) : Prop :=
  Legal (performAmong config.path) (serveAt config) (idle start) moves

/-- The store and its calls after some moves. -/
def crowd (config : Config) (start : World Rough) (moves : List Move) :
    Crowd Step.Answer Reply Rough :=
  after (performAmong config.path) (serveAt config) (idle start) moves

/-- A call has ended before another one is made. -/
def Precedes (config : Config) (start : World Rough) (moves : List Move) (i j : Nat) : Prop :=
  ∃ before later, moves = before ++ later ∧
    ((crowd config start before).reply? i).isSome ∧ (crowd config start before).tasks.length ≤ j

/-- An order in which the calls that have ended might have been made one after the other. -/
structure Serializes (config : Config) (start : World Rough) (moves : List Move)
    (order : List (Nat × Reply)) : Prop where
  distinct : (order.map Prod.fst).Nodup
  /-- It holds the calls that have ended, with their replies. -/
  complete : ∀ i reply, (i, reply) ∈ order ↔ (crowd config start moves).reply? i = some reply
  called : ∀ i reply, (i, reply) ∈ order → (calls moves)[i]? = some reply.call
  realTime : ∀ i j, Precedes config start moves i j →
    ∃ first rest, order = first ++ rest ∧ i ∈ first.map Prod.fst ∧ j ∉ first.map Prod.fst
  /-- Made one at a time on some disk, the calls get the same replies and leave the same contents. -/
  serial : ∃ (m m' : Rough) (settled : Contents),
    run (onRough config.path) (answerEach (serveAt config) (order.map fun e => e.2.call))
        ⟨start.contents, m⟩ = (order.map Prod.snd, ⟨settled, m'⟩) ∧
      ((crowd config start moves).AllEnded → (crowd config start moves).world.contents = settled)
  /-- What a call finds has landed before it; what failed has not. -/
  found : ∀ first i (call : Call) (result : call.Result) rest,
    order = first ++ (i, ⟨call, .value result⟩) :: rest →
      result = call.found (landed start.contents (first.map Prod.snd))
  /-- A counter is what it was set to last and what has been added to it since. -/
  counted : (crowd config start moves).AllEnded → ∀ name first i value rest,
    order = first ++ (i, ⟨.setCounter name value, .value ()⟩) :: rest →
      (∀ e ∈ rest, e.2.replaced? name = none) →
        (crowd config start moves).world.contents.total name
          = value + (rest.map fun e => e.2.added name).sum
  /-- A counter that was never set is what it was at the start and what has been added to it. -/
  counted' : (crowd config start moves).AllEnded → ∀ name,
    (∀ e ∈ order, e.2.replaced? name = none) →
      (crowd config start moves).world.contents.total name
        = start.contents.total name + (order.map fun e => e.2.added name).sum

/-- From one moment to another nothing has been renamed over the file, or the snapshot of the
contents that there are now has been. -/
def UpToDate (path : Path) (w w' : World Rough) : Prop :=
  (w'.medium.renamed = w.medium.renamed ∧
      w'.medium.disk.node? path = w.medium.disk.node? path) ∨
    w'.medium.disk.node? path = some (.file (document w'.contents))

section

variable {config : Config} {start : World Rough} {moves : List Move}

theorem feasible_answerEach {c c' : Contents} {replies : List Reply}
    (h : Serves (fun c reply c' => Answers config reply.call c reply.answer c') c replies c') :
    Feasible config.path (answerEach (serveAt config) (replies.map Reply.call)) c replies c' := by
  induction h with
  | nil c => exact feasible_done [] c
  | cons first _ ih => exact first.feasible.bind (ih.bind (feasible_done _ _))

theorem possible_performAmong (path : Path) (s : Step) (w : World Rough) :
    (sharing path).may s w (performAmong path s w).1 (performAmong path s w).2 :=
  Rough.may_perform path w s

/-- Calls that are made together happen in an interleaving. -/
theorem exists_interleaves_of_gather (named : config.path.name ≠ "") (start : World Rough)
    (made : List Call) (fuel : Nat) :
    ∃ moves, calls moves = made ∧ Interleaves config start moves ∧
      gather (performAmong config.path) fuel (made.map (taskFor (serveAt config))) start
        = ((crowd config start moves).results, (crowd config start moves).world) :=
  exists_legal_of_gather (possible_performAmong config.path) (orderly_serveAt named) made start fuel

/-- What has come of a store that has been called. -/
theorem ran_crowd (named : config.path.name ≠ "") (legal : Interleaves config start moves) :
    ∃ settled, Ran (sharing config.path) (servedAs (Answers config) (calls moves)) (idle start)
      start.contents (endings (performAmong config.path) (serveAt config) (idle start) moves)
      (crowd config start moves) settled :=
  ran_after (possible_performAmong config.path) (orderly_serveAt named)
    (List.nil_append (calls moves)).symm rfl (inOrder_idle start) legal

/-- No call but one to save has come to a write where no file can be. -/
def Ordinary (config : Config) (start : World Rough) (moves : List Move) : Prop :=
  ∀ i reply, (crowd config start moves).reply? i = some reply →
    reply.answer = .failure nowhere → reply.call = .save

/-- **Calls at the same time might as well be made one after the other.** -/
theorem serializes_endings (named : config.path.name ≠ "") (legal : Interleaves config start moves)
    (ordinary : Ordinary config start moves) :
    Serializes config start moves
      (endings (performAmong config.path) (serveAt config) (idle start) moves) := by
  obtain ⟨settled, ran⟩ := ran_crowd named legal
  generalize horder : endings (performAmong config.path) (serveAt config) (idle start) moves = order
  rw [horder] at ran
  have complete (i : Nat) (reply : Reply) :
      (i, reply) ∈ order ↔ (crowd config start moves).reply? i = some reply := by
    rw [ran.replies i reply]
    exact ⟨.inr, fun h => h.resolve_left nofun⟩
  have alone : Serves (fun c reply c' => Answers config reply.call c reply.answer c')
      start.contents (order.map Prod.snd) settled := ran.serves.map fun _ _ _ _ h => h.2
  have fits : Serves Fits start.contents (order.map Prod.snd) settled := by
    refine ran.serves.map fun e mem c c' h => h.2.served.imp_right ?_
    rintro ⟨-, -, failed, effect⟩
    -- What fails on its way to a write has changed nothing if it was to save.
    have save := ordinary e.1 e.2 ((complete e.1 e.2).1 mem) failed
    rw [save] at effect
    exact ⟨⟨nowhere, failed⟩, (Except.ok.inj effect).symm⟩
  have ended (all : (crowd config start moves).AllEnded) :
      (crowd config start moves).world.contents = settled := by
    obtain ⟨stages, inOrder⟩ := ran.inOrder
    exact inOrder.contents_of_ended all
  refine ⟨ran.distinct, complete, fun i reply mem => ?_, ?_, ?_, ?_, ?_, ?_⟩
  · obtain ⟨_, _, made, -⟩ := ran.serves.of_mem mem
    exact made
  · rintro i j ⟨before, later, rfl, replied, unmade⟩
    obtain ⟨settled', ran'⟩ := ran_crowd named (legal_append.1 legal).1
    rw [endings_append] at horder
    refine ⟨_, _, horder.symm, ?_, fun mem => ?_⟩
    · obtain ⟨reply, replied⟩ := Option.isSome_iff_exists.1 replied
      have mem := ((ran'.replies i reply).1 replied).resolve_left nofun
      exact List.mem_map_of_mem mem
    · obtain ⟨e, mem', rfl⟩ := List.mem_map.1 mem
      have replied := (ran'.replies e.1 e.2).2 (.inr mem')
      exact absurd (lt_of_reply? replied) (Nat.not_lt_of_le unmade)
  · obtain ⟨disk, room⟩ := exists_room config.path
    have feasible := feasible_answerEach alone
    obtain ⟨script, m', -, plays⟩ := feasible
      { disk, words := fun _ => "", installed := .empty } room
    rw [List.map_map] at plays
    exact ⟨_, _, settled, plays [], ended⟩
  · rintro first i call result rest rfl
    rw [List.map_append, List.map_cons] at fits
    exact fits.found
  · rintro all name first i value rest rfl last
    rw [List.map_append, List.map_cons] at fits
    rw [ended all, fits.total_of_replaced (if_pos rfl), List.map_map]
    · rfl
    · intro reply mem
      obtain ⟨e, mem', rfl⟩ := List.mem_map.1 mem
      exact last e mem'
  · intro all name kept
    rw [ended all, fits.total, List.map_map]
    · rfl
    · intro reply mem
      obtain ⟨e, mem', rfl⟩ := List.mem_map.1 mem
      exact kept e mem'

/-- **What is renamed over the file is the snapshot of the contents at this moment.** -/
theorem upToDate_next (named : config.path.name ≠ "") {before : List Move} {move : Move}
    (legal : Interleaves config start (before ++ [move])) :
    UpToDate config.path (crowd config start before).world
      (crowd config start (before ++ [move])).world := by
  obtain ⟨legal, enabled, -⟩ := legal_append.1 legal
  obtain ⟨settled, ran⟩ := ran_crowd named legal
  obtain ⟨stages, inOrder⟩ := ran.inOrder
  have last : crowd config start (before ++ [move])
      = next (performAmong config.path) (serveAt config) (crowd config start before) move :=
    after_append
  have changed := medium_next (serveAt config) (possible_performAmong config.path) inOrder enabled
  rw [last]
  rcases changed with same | quiet | renewed
  · refine .inl ⟨?_, ?_⟩ <;> rw [same]
  · exact .inl ⟨quiet.renames.renamed, quiet.node⟩
  · exact .inr renewed.node

/-- Changes come to a write only if the store writes at once, and go astray only if no file can be
there. -/
theorem ordinary_of_nameable (named : config.path.name ≠ "")
    (legal : Interleaves config start moves)
    (possible : config.immediate = true → config.path.all nameable = true) :
    Ordinary config start moves := by
  obtain ⟨settled, ran⟩ := ran_crowd named legal
  intro i reply replied failed
  have mem := ((ran.replies i reply).1 replied).resolve_left nofun
  obtain ⟨c, c', -, answers⟩ := ran.serves.of_mem mem
  obtain ⟨call, answer⟩ := reply
  obtain rfl : answer = .failure nowhere := failed
  rcases answers.served with served | ⟨impossible, writes, -, -⟩
  · exact served.expected.elim
  · cases call with
    | save => rfl
    | getGauge | getCounter | getAll | ping => exact writes.elim
    | updateGauge | updateCounter | setCounter =>
      exact nomatch (possible writes).symm.trans impossible

/-! ### An update that is lost -/

/-- An update of a counter, alone. -/
def single : List Move := [.call (.updateCounter "hits" 1), .goOn 0, .goOn 0]

/-- An update that has failed, and whose counter has it. -/
structure Lost (config : Config) (start : World Rough) : Prop where
  legal : Interleaves config start single
  replied : (crowd config start single).tasks = [.ended ⟨.updateCounter "hits" 1, .failure nowhere⟩]
  total : (crowd config start single).world.contents.total "hits" = 1

/-- No order explains how the counter has come to its sum. -/
theorem Lost.not_serializes (lost : Lost config start) (new : start.contents.total "hits" = 0) :
    ¬ ∃ order, Serializes config start single order := by
  rintro ⟨order, h⟩
  have replied (i : Nat) (reply : Reply)
      (h : (crowd config start single).reply? i = some reply) :
      reply = ⟨.updateCounter "hits" 1, .failure nowhere⟩ := by
    rw [Crowd.reply?, lost.replied] at h
    cases i with
    | zero => exact (Option.some.inj h).symm
    | succ => cases h
  have each (e : Nat × Reply) (mem : e ∈ order) :
      e.2 = ⟨.updateCounter "hits" 1, .failure nowhere⟩ :=
    replied e.1 e.2 ((h.complete e.1 e.2).1 mem)
  have ended : (crowd config start single).AllEnded := by
    intro i known
    rw [lost.replied] at known
    obtain rfl : i = 0 := Nat.lt_one_iff.1 known
    rw [Crowd.reply?, lost.replied]
    rfl
  have counted := h.counted' ended "hits" fun e mem => by rw [each e mem]; rfl
  have nothing : (order.map fun e => e.2.added "hits").sum = 0 := by
    refine List.sum_eq_zero fun n hn => ?_
    obtain ⟨e, mem, rfl⟩ := List.mem_map.1 hn
    rw [each e mem]
    rfl
  rw [lost.total, new, nothing] at counted
  cases counted

/-- Where no file can be, an update is lost. -/
theorem lost_of_not_nameable {path : Path} (impossible : path.all nameable = false) (disk : Disk)
    (blow : Blow) :
    Lost ⟨path, true⟩
      ⟨.empty, { disk, script := [some blow], words := fun _ => "", installed := .empty }⟩ := by
  have nowhere : serveAt ⟨path, true⟩ = serveNowhere ⟨path, true⟩ :=
    if_neg (Bool.eq_false_iff.1 impossible)
  constructor
  · unfold Interleaves
    rw [nowhere]
    exact ⟨trivial, trivial, trivial, trivial⟩
  · unfold crowd
    rw [nowhere]
    rfl
  · unfold crowd
    rw [nowhere]
    rfl

end

/-- **A file store that is called from everywhere at once** answers as if its calls had been made
one at a time, in an order that respects real time, whichever steps of its writes fail, if no change
comes to a write where no file can be; and it never renames an outdated snapshot over its file.  It
always answers so exactly if its file can be there, or it does not write at once. -/
theorem serializable_iff (config : Config) (named : config.path.name ≠ "") :
    (∀ start moves, Interleaves config start moves →
      (Ordinary config start moves → ∃ order, Serializes config start moves order) ∧
        ∀ before move later, moves = before ++ move :: later →
          UpToDate config.path (crowd config start before).world
            (crowd config start (before ++ [move])).world) ∧
      ((∀ start moves, Interleaves config start moves →
          ∃ order, Serializes config start moves order) ↔
        (config.immediate = true → config.path.all nameable = true)) := by
  refine ⟨fun start moves legal => ⟨fun ordinary => ?_, ?_⟩, fun serializes immediate => ?_,
    fun possible start moves legal => ?_⟩
  · exact ⟨_, serializes_endings named legal ordinary⟩
  · rintro before move later rfl
    refine upToDate_next named ?_
    rw [List.append_cons] at legal
    exact (legal_append.1 legal).1
  · refine Bool.of_not_eq_false fun impossible => ?_
    obtain ⟨path, _⟩ := config
    cases immediate
    let disk := Disk.withFolder []
    have lost := lost_of_not_nameable impossible disk ⟨.system "", disk⟩
    exact lost.not_serializes rfl (serializes _ _ lost.legal)
  · exact ⟨_, serializes_endings named legal (ordinary_of_nameable named legal possible)⟩

/-! ### A full disk -/

/-- A store that writes at once, on a disk where the second step of a write fails. -/
def fullDisk : World Rough :=
  let disk := Disk.withFolder ["data"]
  ⟨.empty,
    { disk, script := [none, some ⟨.system "No space left on device", disk⟩],
      words := fun _ => "k3", installed := .empty }⟩

/-- Two updates of a counter, and between them a look-up that waits for the first one. -/
def rush : List Move :=
  [.call (.updateCounter "hits" 3), .goOn 0, .call (.getCounter "hits"), .goOn 1,
    .call (.updateCounter "hits" 5), .goOn 2, .goOn 0, .goOn 0, .goOn 0, .goOn 0, .goOn 2, .goOn 1]
    ++ List.replicate 8 (.goOn 2) ++ [.goOn 1]

/-- The case of an update that meets a full disk, and is not heard of again. -/
theorem serializable_of_rush :
    let config : Config := ⟨["data", "metrics.json"], true⟩
    config.path.name ≠ "" ∧ Interleaves config fullDisk rush ∧
      (crowd config fullDisk rush).world.contents.total "hits" = 5 ∧
      (∃ order, Serializes config fullDisk rush order) ∧
        ∀ before move later, rush = before ++ move :: later →
          UpToDate config.path (crowd config fullDisk before).world
            (crowd config fullDisk (before ++ [move])).world := by
  intro config
  have named : config.path.name ≠ "" := by decide
  have legal : Interleaves config fullDisk rush := by
    unfold Interleaves
    decide +kernel
  obtain ⟨each, always⟩ := serializable_iff config named
  have possible : config.immediate = true → config.path.all nameable = true := fun _ => by decide
  exact ⟨named, legal, by decide +kernel, always.2 possible fullDisk rush legal,
    (each fullDisk rush legal).2⟩

/-- **A counter has an update that has failed**, where no file can be. -/
theorem not_serializable_of_null_byte :
    let config : Config := ⟨["data", "metrics\x00.json"], true⟩
    let start : World Rough := ⟨.empty,
      { disk := Disk.withFolder ["data"], words := fun _ => "k3", installed := .empty }⟩
    config.path.name ≠ "" ∧ Interleaves config start single ∧
      (crowd config start single).tasks = [.ended ⟨.updateCounter "hits" 1, .failure nowhere⟩] ∧
      (crowd config start single).world.contents.total "hits" = 1 ∧
      ¬ ∃ order, Serializes config start single order := by
  intro config start
  have lost : Lost config start :=
    ⟨by unfold Interleaves; decide +kernel, rfl, by decide +kernel⟩
  exact ⟨by decide, lost.legal, lost.replied, lost.total, lost.not_serializes rfl⟩

end Telemetry.Store.File
