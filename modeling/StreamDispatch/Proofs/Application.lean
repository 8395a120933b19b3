import StreamDispatch.Proofs.Operations
import StreamDispatch.Service

/-! What application code can do to a channel. Callbacks and handlers are programs, so each of their
runs is a row of notes and of actions that succeeded; all else about them follows from that. -/
namespace StreamDispatch

variable {σ τ α : Type}

/-- The event is left by application code, the allocator included. -/
def Event.isOwn : Event → Bool
  | .wrote _ | .noted _ | .asked _ => true
  | _ => false

namespace Journal

variable {events : Journal}

/-- A view that passes over single events of application code passes over all of them. -/
theorem flatMap_own (view : Event → List α) (silent : ∀ event, event.isOwn = true → view event = [])
    (own : ∀ event ∈ events, event.isOwn = true) : events.flatMap view = [] :=
  List.flatMap_eq_nil_iff.mpr fun event member => silent event (own event member)

theorem sent_own (own : ∀ event ∈ events, event.isOwn = true) : events.sent = [] :=
  flatMap_own _ (fun event mine => by cases event <;> first | rfl | simp [Event.isOwn] at mine) own

theorem consumed_own (own : ∀ event ∈ events, event.isOwn = true) : events.consumed = [] :=
  flatMap_own _ (fun event mine => by cases event <;> first | rfl | simp [Event.isOwn] at mine) own

theorem received_own (own : ∀ event ∈ events, event.isOwn = true) : events.received = [] :=
  flatMap_own _ (fun event mine => by cases event <;> first | rfl | simp [Event.isOwn] at mine) own

theorem callbacks_own (own : ∀ event ∈ events, event.isOwn = true) : events.callbacks = [] := by
  apply List.filter_eq_nil_iff.mpr
  intro event member callback
  have mine := own event member
  cases event <;> simp [Event.isOwn, Event.isCallback] at mine callback

/-- Application code leaves what waits for the chain alone. -/
theorem foldl_await_own {waiting : Bytes} (own : ∀ event ∈ events, event.isOwn = true) :
    events.foldl await waiting = waiting := by
  induction events with
  | nil => rfl
  | cons event rest ih =>
    have same : await waiting event = waiting := by
      have mine := own event (List.mem_cons_self ..)
      cases event <;> first | rfl | simp [Event.isOwn] at mine
    rw [List.foldl_cons, same]
    exact ih fun other member => own other (List.mem_cons_of_mem _ member)

end Journal

/-- What an action leaves in the journal when it succeeds. -/
def Action.events : Action → Journal
  | .send data | .sendAndFlush data => [.wrote data]
  | .flush | .close | .closeNow => []

/-- Application code takes a channel and its journal from one state to another. -/
inductive Handled (origin : Channel) (start : Journal) : Channel → Journal → Prop where
  | nothing : Handled origin start origin start
  | noted (entry : Note) (earlier : Handled origin start channel journal) :
      Handled origin start channel (journal ++ [.noted entry])
  | acted (action : Action) (applied : action.apply channel = .ok after)
      (earlier : Handled origin start channel journal) :
      Handled origin start after (journal ++ action.events)

/-- Two sessions, whatever their states, with application code between them. -/
def Session.Handled (before : Session σ) (after : Session τ) : Prop :=
  StreamDispatch.Handled before.channel before.journal after.channel after.journal

namespace Handled

variable {origin channel after : Channel} {start journal last : Journal}

theorem trans (first : Handled origin start channel journal)
    (second : Handled channel journal after last) : Handled origin start after last := by
  induction second with
  | nothing => exact first
  | noted entry _ ih => exact .noted entry ih
  | acted action applied _ ih => exact .acted action applied ih

theorem sameInward (work : Handled origin start channel journal) : origin.SameInward channel := by
  induction work with
  | nothing => exact .refl origin
  | noted _ _ ih => exact ih
  | acted _ applied _ ih => exact ih.trans (Action.apply_sameInward applied)

/-- The journal only grows, and only by what application code leaves there. -/
theorem grows (work : Handled origin start channel journal) :
    ∃ events, journal = start ++ events ∧ ∀ event ∈ events, event.isOwn = true := by
  induction work with
  | nothing => exact ⟨[], by simp, by simp⟩
  | noted entry _ ih =>
    obtain ⟨events, rfl, own⟩ := ih
    refine ⟨events ++ [.noted entry], List.append_assoc .., ?_⟩
    simpa [Event.isOwn, or_imp, forall_and] using own
  | acted action _ _ ih =>
    obtain ⟨events, rfl, own⟩ := ih
    refine ⟨events ++ action.events, List.append_assoc .., ?_⟩
    cases action <;> simpa [Action.events, Event.isOwn, or_imp, forall_and] using own

end Handled

theorem Session.perform_handled (session : Session σ) (action : Action) :
    session.Handled (session.perform action).2 := by
  unfold Session.perform Session.Handled
  cases applied : action.apply session.channel with
  | error fault => exact .nothing
  | ok after =>
    have step : StreamDispatch.Handled session.channel session.journal after _ :=
      .acted action applied .nothing
    cases action <;> simpa [Action.events, Session.record] using step

theorem Program.run_handled (program : Program σ α) (session : Session σ) :
    session.Handled (program.run session).2 := by
  induction program generalizing session with
  | done | panic | hang => exact .nothing
  | look next ih => exact ih _ _ session
  | keep state next ih => exact ih { session with state }
  | note entry next ih =>
    exact .trans (.noted entry .nothing) (ih (session.record (.noted entry)))
  | act action next ih => exact (session.perform_handled action).trans (ih _ _)

theorem Run.lend_handled (work : Run (σ × Bytes) α) (buffer : Bytes) (session : Session σ)
    (handled : ∀ inner : Session (σ × Bytes), inner.Handled (work inner).2) :
    session.Handled (Run.lend buffer work session).2 := by
  have inner := handled (session.withState (session.state, buffer))
  unfold Run.lend
  split <;> rename_i ran <;> rw [ran] at inner <;> exact inner

theorem Run.beside_handled {work : Run σ α} (session : Session (σ × Bytes))
    (handled : ∀ outer : Session σ, outer.Handled (work outer).2) :
    session.Handled (Run.beside work session).2 :=
  handled (session.withState session.state.1)

namespace Handler

theorem runItems_handled (handlers : List (Handler σ)) (item : Item) (session : Session σ) :
    session.Handled (runItems handlers item session).2 := by
  induction handlers generalizing item session with
  | nil => exact .nothing
  | cons handler rest ih =>
    have first := (handler.onItem item).run_handled session
    rw [runItems, Run.bind_apply]
    split
    · rename_i result after ran
      rw [ran] at first
      match result with
      | .error _ | .ok none => exact first
      | .ok (some next) => exact first.trans (ih next after)
    · rename_i after ran
      rw [ran] at first
      exact first
    · rename_i after ran
      rw [ran] at first
      exact first

theorem runBuffer_handled (handlers : List (Handler σ)) (session : Session (σ × Bytes)) :
    session.Handled (runBuffer handlers session).2 := by
  induction handlers generalizing session with
  | nil => exact .nothing
  | cons handler rest ih =>
    have first := handler.onBuffer.run_handled session
    rw [runBuffer, Run.bind_apply]
    split
    · rename_i result after ran
      rw [ran] at first
      rcases result with _ | _ | _ | item
      · exact first
      · exact first
      · exact first.trans (ih after)
      · exact first.trans (Run.beside_handled after (runItems_handled rest item))
    · rename_i after ran
      rw [ran] at first
      exact first
    · rename_i after ran
      rw [ran] at first
      exact first

end Handler

end StreamDispatch
