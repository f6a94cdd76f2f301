import Telemetry.Proofs.Store.AtWork

/-!
# Stores whose medium does not fail

An ideal store is its contents: a call has its effect and is answered, or a counter would leave
its range.  A store at work does what an ideal store does for as long as its medium does not fail
and no call goes astray (`AtWork.run_ideal`).  So what a dialogue with a store comes to, such
failures apart, can be computed from the contents alone.
-/

namespace Telemetry

namespace Store

open Dialogue

/-- Answer a call by its effect on contents. -/
def ideal (call : Call) (c : Contents) : call.Answer × Contents :=
  match call.effect c with
  | .ok after => (.value (call.found after), after)
  | .error e => (.failure e, c)

theorem Served.ideal {call : Call} {c after : Contents} {answer : call.Answer}
    (served : Served call.effect call.found c answer after)
    (saved : ∀ fault, answer ≠ .failure (.storage fault)) : ideal call c = (answer, after) := by
  unfold Store.ideal
  cases served with
  | done h => rw [h]
  | refused h => rw [h]
  | failed h fault => exact absurd rfl (saved fault)

/-- **A store whose medium does not fail is known by its contents**, if no call goes astray. -/
theorem AtWork.run_ideal {α : Type} {d : Dialogue Call Call.Answer α} {store : AtWork}
    (bindable : d.Asks Call.Bindable) (saved : ∀ e ∈ AtWork.transcript d store, ¬ e.Unsaved)
    (arrived : ∀ e ∈ AtWork.transcript d store, ¬ e.Astray) :
    (run AtWork.answer d store).1 = (run ideal d store.contents).1 ∧
      (run AtWork.answer d store).2.contents = (run ideal d store.contents).2 := by
  induction d generalizing store with
  | done a => exact ⟨rfl, rfl⟩
  | ask call next ih =>
    have first : ideal call store.contents
        = ((store.answer call).1, (store.answer call).2.contents) := by
      have arrives (astray : store.LeadsAstray call) : False :=
        arrived _ List.mem_cons_self (answer_of_astray astray).1
      refine (store.answered bindable.1 arrives).1.ideal fun fault failed => ?_
      exact saved _ List.mem_cons_self ⟨fault, failed⟩
    have rest := @ih (store.answer call).1 (store.answer call).2 (bindable.2 _)
      (fun e he => saved e (List.mem_cons_of_mem _ he))
      fun e he => arrived e (List.mem_cons_of_mem _ he)
    rw [run, run, first]
    exact rest

/-- What calls preserve of contents stays true in every store at work, also if its medium fails. -/
theorem AtWork.run_preserves {α : Type} {d : Dialogue Call Call.Answer α} {p : Call → Prop}
    {keeps : Contents → Prop} (bindable : ∀ call, p call → call.Bindable)
    (kept : ∀ call, p call → ∀ c after, keeps c → call.effect c = .ok after → keeps after)
    (asks : d.Asks p) {store : AtWork} (now : keeps store.contents) :
    keeps (run AtWork.answer d store).2.contents := by
  induction d generalizing store with
  | done a => exact now
  | ask call next ih =>
    refine ih _ (asks.2 _) ?_
    by_cases astray : store.LeadsAstray call
    · exact kept call asks.1 _ _ now (answer_of_astray astray).2
    have served := (store.answered (bindable call asks.1) astray).1
    generalize (store.answer call).1 = answer at served
    generalize (store.answer call).2.contents = after at served ⊢
    cases served with
    | done h => exact kept call asks.1 _ _ now h
    | refused => exact now
    | failed => exact now

end Store
end Telemetry
