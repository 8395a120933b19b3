import StreamDispatch.Proofs.Callbacks

/-! Buffers that no memory holds. A read asks for the room that is left before it looks at the
connection. Where that is more than any buffer can have nothing is ever read, and every visit that
comes to a read reports the same panic, whatever the peer does. -/
namespace StreamDispatch

variable {σ : Type}

theorem Channel.probe_oversized (channel : Channel) {room : Nat} (much : Word.maxCapacity < room) :
    channel.probe room =
      (if channel.closed || channel.closeRequested || !channel.reading then .ok .closed
        else .error (.text "capacity overflow"), channel) := by
  have some : room ≠ 0 := Nat.ne_of_gt (Nat.lt_of_le_of_lt (Nat.zero_le _) much)
  unfold probe
  rw [if_neg some, if_pos much]
  cases channel.closed <;> cases channel.closeRequested <;> cases channel.reading <;> rfl

/-- Bytes come only where there can be room for them. -/
theorem Channel.probe_data_fits {channel : Channel} {room : Nat} {fresh : Bytes}
    (found : (channel.probe room).1 = .ok (.data fresh)) : room ≤ Word.maxCapacity := by
  by_contra much
  rw [channel.probe_oversized (Nat.lt_of_not_le much)] at found
  split at found <;> simp at found

theorem Service.not_fits_of_probe {service : Service σ} {channel : Channel} {payload : Panic}
    (found : (channel.probe (service.room channel)).1 = .error payload) :
    ¬ service.bufferSize ≤ Word.maxCapacity :=
  Nat.not_le_of_lt (Nat.lt_of_lt_of_le (Channel.probe_error found).2.2.1 (Nat.sub_le ..))

/-- Nothing was read, and the chain never ran. -/
structure Session.Deaf (session : Session σ) : Prop where
  pending : session.channel.pending = []
  received : session.journal.received = []
  unchained : ∀ offered left fault, .chained offered left fault ∉ session.journal

/-- The next visit comes to a read. -/
structure Session.Listening (session : Session σ) : Prop where
  opened : session.channel.opened = true
  unfired : session.channel.closeFired = false
  free : session.channel.locked = false
  live : session.channel.closed = false
  unasked : session.channel.closeRequested = false
  reading : session.channel.reading = true

/-- A visit reports that there is no such room, and does nothing else but call back. -/
def Session.Balks (service : Service σ) (before : Session σ) : Prop :=
  ∃ own, (before.step service (.visit false)).journal =
      before.journal ++ .failed (.panic (.text "capacity overflow")) [] :: own ∧
    ∀ event ∈ own, event.isOwn = true

namespace Session.Deaf

variable {service : Service σ} {session after : Session σ} {events : Journal}

theorem extend (deaf : session.Deaf) (grown : after.journal = session.journal ++ events)
    (pending : after.channel.pending = session.channel.pending) (unread : events.received = [])
    (unchained : ∀ offered left fault, .chained offered left fault ∉ events) : after.Deaf where
  pending := pending.trans deaf.pending
  received := by rw [grown, Journal.received_append, deaf.received, unread, List.append_nil]
  unchained := by
    intro offered left fault member
    rw [grown, List.mem_append] at member
    exact member.elim (deaf.unchained _ _ _) (unchained _ _ _)

theorem extend_own (deaf : session.Deaf) (grown : after.journal = session.journal ++ events)
    (pending : after.channel.pending = session.channel.pending)
    (own : ∀ event ∈ events, event.isOwn = true) : after.Deaf := by
  refine deaf.extend grown pending (Journal.received_own own) fun offered left fault member => ?_
  simpa [Event.isOwn] using own _ member

theorem handled (deaf : session.Deaf) (work : session.Handled after) : after.Deaf := by
  obtain ⟨events, grown, own⟩ := work.grows
  exact deaf.extend_own grown work.sameInward.pending own

theorem called (deaf : session.Deaf) (call : Call) : (session.record call.event).Deaf :=
  deaf.extend rfl rfl (by cases call <;> rfl) (by cases call <;> simp [Call.event])

/-- No unit of work comes further than its read. -/
def AtPoint : Point → Session σ → Prop
  | .begun, session | .calling _, session | .over, session | .stuck, session => session.Deaf
  | .read .., _ | .offered _, _ | .chained .., _ => False

theorem move (much : Word.maxCapacity < service.bufferSize) {point next : Point}
    (move : Move service point session next after) (stands : AtPoint point session) :
    AtPoint next after := by
  cases move with
  | opens | idles | overflows => exact stands
  | closes =>
    rw [Session.updateChannel, Channel.release_eq]
    exact { stands with }
  | reads _ found =>
    have all : service.room session.channel = service.bufferSize := by
      rw [Service.room, stands.pending, List.length_nil, Nat.sub_zero]
    rw [Channel.probe_oversized _ (all ▸ much)] at found
    split at found <;> simp at found
  | joins | joinFails | runs | runHangs | keeps | keepFails => exact stands.elim
  | calls call ran =>
    have deaf := Session.Deaf.called stands call |>.handled (Run.attempt_handled ran)
    cases call <;> cases ‹Except Panic Unit› <;> simp only [Call.next] <;> try split
    all_goals exact { deaf with }
  | callHangs call ran => exact Session.Deaf.called stands call |>.handled (Run.attempt_handled ran)

theorem step (much : Word.maxCapacity < service.bufferSize) (deaf : session.Deaf)
    (step : Step) : (session.step service step).Deaf := by
  apply step_keeps Deaf
  · intro session bytes more deaf
    refine deaf.extend rfl ?_ rfl (by simp)
    rw [record, updateChannel, Channel.arrive_of_open more]
  · exact fun session deaf => deaf.extend rfl rfl rfl (by simp)
  · exact fun _ deaf => { deaf with }
  · exact fun session action deaf => deaf.handled (session.perform_handled action)
  · exact fun _ deaf => { deaf with }
  · intro session _ _ deaf
    exact session.work_keeps Deaf AtPoint (fun deaf => { deaf with }) (Deaf.move much)
      (fun _ deaf => { deaf with }) (fun _ deaf => deaf) deaf
  · exact deaf

theorem live (much : Word.maxCapacity < service.bufferSize) (id : Nat) (steps : List Step) :
    ((service.session id).live service steps).Deaf :=
  live_keeps Deaf (fun _ step deaf => deaf.step much step) ⟨rfl, rfl, by simp [Service.session]⟩
    steps

end Session.Deaf

namespace Service

variable {service : Service σ} {session : Session σ}

/-- What a report adds to the journal. -/
theorem report_grows (service : Service σ) (error : Error) (pending : Bytes)
    (session : Session σ) :
    ∃ own, (service.report error pending session).2.journal =
        session.journal ++ .failed error pending :: own ∧
      ∀ event ∈ own, event.isOwn = true := by
  rcases ran : Run.attempt (service.callbacks.onException error pending).run
    (session.record (.failed error pending)) with ⟨outcome, after⟩
  obtain ⟨own, grown, mine⟩ := (Run.attempt_handled ran).grows
  refine ⟨own, ?_, mine⟩
  have same : (service.report error pending session).2 = after := by
    simp only [report, Run.bind_apply, Run.record, ran]
    cases outcome <;> rfl
  rw [same, grown]
  exact List.append_assoc ..

end Service

/-- A visit of a channel that still listens comes to a read that asks for too much. -/
theorem Session.Listening.balks {service : Service σ} {session : Session σ}
    (listening : session.Listening) (much : Word.maxCapacity < service.bufferSize)
    (deaf : session.Deaf) : session.Balks service := by
  have all : service.room session.lock.channel = service.bufferSize := by
    change service.bufferSize - session.channel.pending.length = _
    rw [deaf.pending, List.length_nil, Nat.sub_zero]
  have found : session.lock.channel.probe (service.room session.lock.channel) =
      (.error (.text "capacity overflow"), session.lock.channel) := by
    rw [Channel.probe_oversized _ (all ▸ much)]
    simp [lock, updateChannel, listening.live, listening.unasked, listening.reading]
  have unit : service.unit session.lock =
      service.report (.panic (.text "capacity overflow")) [] session.lock := by
    have opened : session.lock.channel.opened = true := listening.opened
    have pending : session.lock.channel.pending = [] := deaf.pending
    simp [Service.unit, Service.receive, Service.cycle, Run.bind_apply, Run.channel, Run.attempt,
      Service.probe, opened, pending, found]
  obtain ⟨own, grown, mine⟩ :=
    service.report_grows (.panic (.text "capacity overflow")) [] session.lock
  refine ⟨own, ?_, mine⟩
  have visited : session.step service (.visit false) = session.work service := by
    simp [Session.step, visit, poll, listening.unfired, listening.free]
  have kept : (session.work service).journal = (service.unit session.lock).2.journal := by
    unfold work lock
    split <;> rename_i same <;> rw [same]
    rfl
  rw [visited, kept, unit, grown]
  rfl

/-- Where the buffers are larger than any buffer can be nothing is ever read and the chain never
runs; and as long as a channel listens every visit reports why. -/
theorem Service.oversized_deaf (service : Service σ) (much : Word.maxCapacity < service.bufferSize)
    (id : Nat) (steps : List Session.Step) :
    let session := (service.session id).live service steps
    session.Deaf ∧ (session.Listening → session.Balks service) :=
  have deaf := Session.Deaf.live much id steps
  ⟨deaf, fun listening => listening.balks much deaf⟩

end StreamDispatch
