import StreamDispatch.Proofs.Drain
import StreamDispatch.Proofs.Flags

/-! After the end of a dispatch loop. Nobody lives in it any more, no sweep does anything, and whoever
comes late is shut down at once. What those who left have to show stays as it was. -/
namespace StreamDispatch

variable {σ : Type}

namespace Session

variable {service : Service σ} {session : Session σ}

/-- What a session has to show: whether it is closed, the callbacks that fired and the bytes that
have reached the peer. -/
structure Remains where
  closed : Bool
  callbacks : Journal
  delivered : Bytes

def remains (session : Session σ) : Remains where
  closed := session.channel.closed
  callbacks := session.journal.callbacks
  delivered := session.channel.connection.delivered

/-- A connection that was shut down before anything came of it. -/
def Remains.late : Remains := ⟨true, [], []⟩

/-- An action on a closed channel changes nothing that shows. -/
theorem perform_remains (closed : session.channel.closed = true) (action : Action) :
    (session.perform action).2.remains = session.remains := by
  rcases session.perform_cases action with ⟨_, _, same⟩ | ⟨channel, applied, same⟩ <;> rw [same]
  cases action with
  | send | flush | sendAndFlush =>
    rw [Action.apply_refused rfl closed] at applied
    cases applied
  | close =>
    obtain rfl := Except.ok.inj applied
    simp [remains, Channel.close_of_closed closed, Action.events]
  | closeNow =>
    obtain rfl := Except.ok.inj applied
    simp [remains, Channel.closeNow_of_closed closed, Action.events]

/-- Without visits nothing more comes of a closed session. -/
theorem step_remains (closed : session.channel.closed = true) {step : Step}
    (unvisited : ∀ closing, step ≠ .visit closing) :
    (session.step service step).remains = session.remains := by
  cases step with
  | arrive bytes =>
    rw [Session.step, arrive]
    split
    · rfl
    · rename_i more
      rw [updateChannel, Channel.arrive_of_open (by simpa using more)]
      simp [remains, record, Journal.callbacks, Event.isCallback]
  | peerEnds =>
    simp [Session.step, peerEnds, updateChannel, record, remains, Channel.peerEnds,
      Journal.callbacks, Event.isCallback]
  | breaks => rfl
  | act action => exact perform_remains closed action
  | visit closing => exact absurd rfl (unvisited closing)

theorem closeNow_closed (session : Session σ) :
    (session.updateChannel Channel.closeNow).channel.closed = true := by
  cases closed : session.channel.closed with
  | true => simp [updateChannel, Channel.closeNow_of_closed closed, closed]
  | false => simp [updateChannel, Channel.closeNow_of_open closed]

end Session

structure Signals.Rises (before after : Signals) : Prop where
  closing : before.closing = true → after.closing = true
  acceptDone : before.acceptDone = true → after.acceptDone = true
  terminated : before.terminated = true → after.terminated = true

namespace Signals.Rises

variable {first second third : Signals}

theorem refl (signals : Signals) : signals.Rises signals := ⟨id, id, id⟩

theorem trans (left : first.Rises second) (right : second.Rises third) : first.Rises third :=
  ⟨right.closing ∘ left.closing, right.acceptDone ∘ left.acceptDone,
    right.terminated ∘ left.terminated⟩

end Signals.Rises

namespace Hub

variable {service : Service σ} {hub : Hub σ}

theorem step_rises (hub : Hub σ) (service : Service σ) (step : Step) :
    hub.signals.Rises (hub.step service step).signals := by
  cases step with
  | enroll =>
    rw [Hub.step]
    split
    · exact .refl _
    · rcases hub.enroll_cases service with ⟨_, same⟩ | ⟨_, same⟩ <;> rw [same] <;> exact .refl _
  | spend =>
    rw [Hub.step]
    split <;> exact .refl _
  | arrive | peerEnds | breaks | act => exact .refl _
  | closing => exact ⟨fun _ => rfl, id, id⟩
  | acceptDone => exact ⟨id, fun _ => rfl, id⟩
  | forceClose => exact ⟨fun _ => rfl, id, fun _ => rfl⟩
  | sweep order =>
    have signals := hub.visits_signals service hub.signals.closing order
    rw [Hub.step]
    rcases hub.sweep_cases service order with ⟨_, same⟩ | ⟨_, ⟨_, _, same⟩ | ⟨_, same⟩⟩ <;> rw [same]
    · exact .refl _
    · exact ⟨id, id, fun _ => rfl⟩
    · rw [signals]
      exact .refl _

theorem run_rises (hub : Hub σ) (service : Service σ) (steps : List Step) :
    hub.signals.Rises (hub.run service steps).signals := by
  induction steps generalizing hub with
  | nil => exact .refl _
  | cons first rest ih => exact (hub.step_rises service first).trans (ih _)

/-- The loop has ended, nobody lives in it, and whoever left is closed. -/
structure Over (hub : Hub σ) : Prop where
  terminated : hub.signals.terminated = true
  vacant : hub.live.members = []
  shut : ∀ session ∈ hub.departed, session.channel.closed = true

/-- What those who left have to show. -/
def remains (hub : Hub σ) : List Session.Remains := hub.departed.map Session.remains

def callbacks (hub : Hub σ) : Journal :=
  (hub.departed ++ hub.live.channels).flatMap (·.journal.callbacks)

/-- A step of one session keeps what those who left have to show. -/
theorem touch_remains (service : Service σ)
    (shut : ∀ session ∈ hub.departed, session.channel.closed = true) (id : Nat)
    {step : Session.Step} (unvisited : ∀ closing, step ≠ .visit closing) :
    (hub.touch id (·.step service step)).remains = hub.remains := by
  rw [remains, remains, touch, List.map_map]
  refine List.map_congr_left fun session member => ?_
  rw [Function.comp_apply]
  split
  · exact Session.step_remains (shut session member) unvisited
  · rfl

/-- Everybody who left is closed if that is what they have to show. -/
theorem shut_of_remains {before after : Hub σ} (same : after.remains = before.remains)
    (shut : ∀ session ∈ before.departed, session.channel.closed = true) :
    ∀ session ∈ after.departed, session.channel.closed = true := by
  intro session member
  have shown : session.remains ∈ before.remains := same ▸ List.mem_map.mpr ⟨session, member, rfl⟩
  obtain ⟨other, present, alike⟩ := List.mem_map.mp shown
  have closed : other.channel.closed = session.channel.closed := congrArg (·.closed) alike
  exact closed.symm.trans (shut other present)

theorem departed_shut (service : Service σ) (steps : List Step) :
    ∀ session ∈ (run service steps {}).departed, session.channel.closed = true := by
  refine (run_keeps service (fun hub => hub.Sound service ∧
    ∀ session ∈ hub.departed, session.channel.closed = true) steps ?_ ?_ ?_ ?_ ?_ ?_ {}
    ⟨⟨by simp, by simp, List.nodup_nil⟩, by simp⟩).2
  · intro _ hub _ ⟨sound, shut⟩
    refine ⟨sound.enroll, ?_⟩
    rcases hub.enroll_cases service with ⟨_, same⟩ | ⟨_, same⟩ <;> rw [same]
    · exact List.forall_mem_append.mpr
        ⟨shut, List.forall_mem_singleton.mpr (Session.closeNow_closed _)⟩
    · exact shut
  · exact fun _ hub _ ⟨sound, shut⟩ => ⟨{ sound with }, shut⟩
  · intro hub id step unvisited ⟨sound, shut⟩
    exact ⟨sound.touch id step, shut_of_remains (touch_remains service shut id unvisited) shut⟩
  · intro hub closing id _ ⟨sound, shut⟩
    refine ⟨sound.visit closing id, ?_⟩
    rcases hub.visit_cases service closing id with
      ⟨same, _⟩ | ⟨session, present, ⟨fired, same⟩ | ⟨_, same⟩⟩ <;> rw [same]
    · exact shut
    · have settled := (sound.housed _ present).1.settled fired
      exact List.forall_mem_append.mpr ⟨shut, List.forall_mem_singleton.mpr settled.closed⟩
    · exact shut
  · exact fun hub signals _ _ _ ⟨sound, shut⟩ => ⟨{ sound with }, shut⟩
  · intro _ hub ⟨sound, shut⟩
    refine ⟨sound.forceClose, List.forall_mem_append.mpr ⟨shut, fun session member => ?_⟩⟩
    obtain ⟨before, _, rfl⟩ := List.mem_map.mp member
    exact before.closeNow_closed

theorem over_of_terminated (service : Service σ) (steps : List Step)
    (finished : (run service steps {}).signals.terminated = true) : (run service steps {}).Over :=
  ⟨finished, live_of_terminated service steps finished, departed_shut service steps⟩

namespace Over

theorem sweep (ceased : hub.Over) (service : Service σ) (order : List Nat) :
    hub.sweep service order = hub := by
  rw [Hub.sweep, if_pos ceased.terminated]

/-- Whoever comes late is shut down at once and not kept. -/
theorem enroll (ceased : hub.Over) (service : Service σ) :
    (hub.enroll service).2.Over ∧ (hub.enroll service).2.remains = hub.remains ++ [.late] := by
  rcases hub.enroll_cases service with ⟨_, same⟩ | ⟨running, _⟩
  · rw [same]
    constructor
    · exact ⟨ceased.terminated, ceased.vacant, List.forall_mem_append.mpr
        ⟨ceased.shut, List.forall_mem_singleton.mpr (Session.closeNow_closed _)⟩⟩
    · rw [remains, List.map_append]
      rfl
  · exact absurd (ceased.terminated.symm.trans running) (by decide)

theorem forceClose (ceased : hub.Over) :
    hub.forceClose.Over ∧ hub.forceClose.remains = hub.remains := by
  have nobody : hub.live.channels = [] := by rw [ChannelSet.channels, ceased.vacant, List.map_nil]
  have same : hub.forceClose.departed = hub.departed := by simp [Hub.forceClose, nobody]
  exact ⟨⟨rfl, rfl, same ▸ ceased.shut⟩, by rw [remains, same, remains]⟩

theorem touch (ceased : hub.Over) (service : Service σ) (id : Nat) {step : Session.Step}
    (unvisited : ∀ closing, step ≠ .visit closing) :
    (hub.touch id (·.step service step)).Over ∧
      (hub.touch id (·.step service step)).remains = hub.remains := by
  have same := touch_remains service ceased.shut id unvisited
  refine ⟨⟨ceased.terminated, ?_, shut_of_remains same ceased.shut⟩, same⟩
  simp [Hub.touch, ChannelSet.update, ceased.vacant]

/-- Whatever happens, the loop stays over, and there is nothing new to show but from those who come
late. -/
theorem step (ceased : hub.Over) (service : Service σ) (step : Step) :
    (hub.step service step).Over ∧
      ∃ late, (hub.step service step).remains = hub.remains ++ List.replicate late .late := by
  have settled {after : Hub σ} (kept : after.Over ∧ after.remains = hub.remains) :
      after.Over ∧ ∃ late, after.remains = hub.remains ++ List.replicate late .late :=
    ⟨kept.1, 0, by simp [kept.2]⟩
  cases step with
  | enroll =>
    rw [Hub.step]
    split
    · exact settled ⟨ceased, rfl⟩
    · exact ⟨(ceased.enroll service).1, 1, (ceased.enroll service).2⟩
  | spend =>
    rw [Hub.step]
    split
    · exact settled ⟨ceased, rfl⟩
    · exact settled ⟨⟨ceased.terminated, ceased.vacant, ceased.shut⟩, rfl⟩
  | arrive id bytes => exact settled (ceased.touch service id (by simp))
  | peerEnds id => exact settled (ceased.touch service id (by simp))
  | breaks id => exact settled (ceased.touch service id (by simp))
  | act id action => exact settled (ceased.touch service id (by simp))
  | sweep order =>
    rw [Hub.step, ceased.sweep]
    exact settled ⟨ceased, rfl⟩
  | closing | acceptDone => exact settled ⟨⟨ceased.terminated, ceased.vacant, ceased.shut⟩, rfl⟩
  | forceClose => exact settled ceased.forceClose

theorem run (ceased : hub.Over) (service : Service σ) (steps : List Step) :
    (hub.run service steps).Over ∧
      ∃ late, (hub.run service steps).remains = hub.remains ++ List.replicate late .late := by
  induction steps generalizing hub with
  | nil => exact ⟨ceased, 0, by simp [Hub.run]⟩
  | cons first rest ih =>
    obtain ⟨still, some, first⟩ := ceased.step service first
    obtain ⟨final, more, later⟩ := ih still
    refine ⟨final, some + more, ?_⟩
    rw [Hub.run, List.foldl_cons]
    exact later.trans (by rw [first, List.append_assoc, List.replicate_append_replicate])

theorem callbacks (ceased : hub.Over) :
    hub.callbacks = hub.remains.flatMap Session.Remains.callbacks := by
  have nobody : hub.live.channels = [] := by rw [ChannelSet.channels, ceased.vacant, List.map_nil]
  rw [Hub.callbacks, nobody, List.append_nil, remains, List.flatMap_map]
  rfl

theorem callbacks_run (ceased : hub.Over) (service : Service σ) (steps : List Step) :
    (hub.run service steps).callbacks = hub.callbacks := by
  obtain ⟨still, late, same⟩ := ceased.run service steps
  have silent : (List.replicate late Session.Remains.late).flatMap (·.callbacks) = [] :=
    List.flatMap_eq_nil_iff.mpr fun _ member => (List.eq_of_mem_replicate member) ▸ rfl
  rw [still.callbacks, ceased.callbacks, same, List.flatMap_append, silent, List.append_nil]

end Over

end Hub

end StreamDispatch
