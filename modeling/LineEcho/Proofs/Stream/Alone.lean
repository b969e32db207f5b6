import LineEcho.Stream.Machine
import LineEcho.Stream.Sides

/-!
# Parties on one side of a connection

A party all of whose requests are about one side of a connection notices nothing of the other side.
What it comes to in company is therefore what it comes to alone: wherever it stands, it is on its
way to the state in which it ends when it runs on the scripts of its side by itself.

`Machine.Heads` is this invariant.  It is kept when the party is answered, when the other side
changes, and when the party waits in vain for less time than its answer takes.
-/

namespace LineEcho

/-- Two stages of runs that cannot be told apart on one side. -/
structure Progress.SameOn {σ : Type} (side : Side) (first second : Progress σ) : Prop where
  now_eq : first.now = second.now
  state_eq : first.state = second.state
  streams_eq : first.streams.only side = second.streams.only side

@[simp]
theorem Streams.only_only (streams : Streams) (side : Side) :
    (streams.only side).only side = streams.only side := by
  cases side <;> rfl

namespace Machine

variable {σ : Type} (machine : Machine σ)

/-- All that a machine asks for is about one side. -/
def KeepsTo (side : Side) : Prop :=
  ∀ state asked, machine.request state = some asked → asked.side = side

theorem le_now_finish (progress : Progress σ) : progress.now ≤ (machine.finish progress).now := by
  refine machine.finish_invariant (fun later => progress.now ≤ later.now) ?_ progress
    (Nat.le_refl _)
  intro later asked _ forward
  exact Nat.le_trans forward (Streams.le_now_await _ _ _ _)

theorem now_await_le_finish {progress : Progress σ} {asked : Request}
    (asks : machine.request progress.state = some asked) :
    (progress.streams.await (machine.deadline progress.state) progress.now asked).now ≤
      (machine.finish progress).now := by
  rw [machine.finish_of_request_eq_some asks]
  exact machine.le_now_finish (machine.advance progress asked)

variable {machine} {side : Side} {first second : Progress σ}

theorem sameOn_advance {asked : Request} (state_eq : first.state = second.state)
    (same : Streams.SameReply side
      (first.streams.await (machine.deadline first.state) first.now asked)
      (second.streams.await (machine.deadline first.state) second.now asked)) :
    Progress.SameOn side (machine.advance first asked) (machine.advance second asked) := by
  refine ⟨?_, ?_, ?_⟩
  · simp only [advance, ← state_eq, same.now_eq]
  · simp only [advance, ← state_eq, same.now_eq, same.answer_eq]
  · simp only [advance, ← state_eq, same.streams_eq]

theorem sameOn_finish (keeps : machine.KeepsTo side) (same : first.SameOn side second) :
    (machine.finish first).SameOn side (machine.finish second) := by
  fun_induction finish machine first generalizing second with
  | case1 first asks =>
    rw [machine.finish_of_request_eq_none (same.state_eq ▸ asks)]
    exact same
  | case2 first asked asks ih =>
    have asksToo : machine.request second.state = some asked := same.state_eq ▸ asks
    rw [machine.finish_of_request_eq_some asksToo]
    refine ih (sameOn_advance same.state_eq ?_)
    -- the request is about the side on which the streams agree, so the replies do
    have about := keeps _ _ asks
    subst about
    rw [← same.now_eq]
    exact Streams.await_congr same.streams_eq _ _

variable (machine) in
/-- A stage on the way to the end of a run: the party will come to the end at the same moment, or it
has come there and asks for nothing more. -/
structure Heads (final progress : Progress σ) : Prop where
  state_eq : (machine.finish progress).state = final.state
  arrives : machine.request progress.state ≠ none → (machine.finish progress).now = final.now
  arrived : machine.request progress.state = none → final.now ≤ progress.now

variable {final : Progress σ}

theorem heads_finish (progress : Progress σ) : machine.Heads (machine.finish progress) progress :=
  ⟨rfl, fun _ => rfl,
    fun asks => Nat.le_of_eq (congrArg Progress.now (machine.finish_of_request_eq_none asks))⟩

theorem Heads.congr (heads : machine.Heads final first) (keeps : machine.KeepsTo side)
    (same : first.SameOn side second) : machine.Heads final second := by
  have ends := sameOn_finish keeps same
  refine ⟨ends.state_eq.symm.trans heads.state_eq, fun asks => ?_, fun asks => ?_⟩
  · exact ends.now_eq.symm.trans (heads.arrives (same.state_eq ▸ asks))
  · exact same.now_eq ▸ heads.arrived (same.state_eq ▸ asks)

theorem Heads.advance {asked : Request} (heads : machine.Heads final first)
    (asks : machine.request first.state = some asked) :
    machine.Heads final (machine.advance first asked) := by
  have next := machine.finish_of_request_eq_some asks
  have ends : (machine.finish first).now = final.now := heads.arrives (by simp [asks])
  refine ⟨next ▸ heads.state_eq, fun _ => next ▸ ends, fun asksNothing => ?_⟩
  refine Nat.le_of_eq ?_
  rw [← ends, next, machine.finish_of_request_eq_none asksNothing]

/-- Waiting in vain leads nowhere else, as long as the answer stays the same. -/
theorem Heads.wait {asked : Request} (heads : machine.Heads final first)
    (keeps : machine.KeepsTo side) (asks : machine.request first.state = some asked)
    (state_eq : second.state = first.state)
    (same : Streams.SameReply side
      (second.streams.await (machine.deadline second.state) second.now asked)
      (first.streams.await (machine.deadline second.state) first.now asked)) :
    machine.Heads final second := by
  have asksStill : machine.request second.state = some asked := state_eq ▸ asks
  -- the scripts differ now, but after the answer they no longer do
  have ends : (machine.finish second).SameOn side (machine.finish first) := by
    rw [machine.finish_of_request_eq_some asks, machine.finish_of_request_eq_some asksStill]
    exact sameOn_finish keeps (sameOn_advance state_eq same)
  refine ⟨ends.state_eq.trans heads.state_eq, fun _ => ?_, fun asksNothing => ?_⟩
  · exact ends.now_eq.trans (heads.arrives (by simp [asks]))
  · rw [asksStill] at asksNothing
    contradiction

theorem Heads.state_eq_of_done (heads : machine.Heads final first)
    (asks : machine.request first.state = none) : first.state = final.state := by
  have same := heads.state_eq
  rwa [machine.finish_of_request_eq_none asks] at same

theorem Heads.stay (heads : machine.Heads final first)
    (asks : machine.request first.state = none) (state_eq : second.state = first.state)
    (forward : first.now ≤ second.now) : machine.Heads final second := by
  have asksStill : machine.request second.state = none := state_eq ▸ asks
  refine ⟨?_, fun asksMore => absurd asksStill asksMore, fun _ => ?_⟩
  · rw [machine.finish_of_request_eq_none asksStill, state_eq]
    exact heads.state_eq_of_done asks
  · exact Nat.le_trans (heads.arrived asks) forward

theorem Heads.answered_le {asked : Request} (heads : machine.Heads final first)
    (asks : machine.request first.state = some asked) :
    (first.streams.await (machine.deadline first.state) first.now asked).now ≤ final.now := by
  rw [← heads.arrives (by simp [asks])]
  exact machine.now_await_le_finish asks

end Machine

end LineEcho
