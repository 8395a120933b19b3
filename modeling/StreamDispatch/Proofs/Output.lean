import StreamDispatch.Proofs.Moments

/-! What reaches the peer. Through any writer that holds back at most an end of what it was given,
the peer has at every moment received a prefix of what was sent. A flush and a close make it all of
that; a close without a flush drops the rest for good. -/
namespace StreamDispatch

variable {σ : Type}

namespace Session

/-- What has reached the peer is a prefix of what was sent. -/
def InOrder (session : Session σ) : Prop :=
  session.channel.connection.delivered <+: session.journal.written

/-- Everything that was sent has reached the peer. -/
def Flushed (session : Session σ) : Prop :=
  session.channel.connection.delivered = session.journal.written

/-- Once the output side is given up, what was flushed stays so. -/
theorem Flushed.onward {τ : Type} {before : Session σ} {after : Session τ}
    (flushed : before.Flushed) (gone : before.channel.output = none)
    (onward : before.Onward after) : after.Flushed := by
  obtain ⟨_, same, written⟩ := onward.silent gone
  exact same.trans (flushed.trans written.symm)

end Session

def Action.flushes : Action → Bool
  | flush | sendAndFlush _ => true
  | send _ | close | closeNow => false

namespace Coherent

variable {service : Service σ} {session here : Session σ} {closing : Bool}

theorem inOrder (coherent : Coherent session.channel session.journal) : session.InOrder := by
  obtain ⟨dropped, same, _⟩ := coherent.written
  rw [Session.InOrder, same, List.append_assoc]
  exact List.prefix_append ..

/-- As long as nothing may be dropped, what has not reached the peer is held back. -/
theorem kept (coherent : Coherent session.channel session.journal)
    (keeps : session.channel.discard = false) :
    session.journal.written =
      session.channel.connection.delivered ++ session.channel.output.getD [] := by
  obtain ⟨dropped, same, drops⟩ := coherent.written
  have none : dropped = [] := by
    by_contra some
    simp [drops some] at keeps
  rw [same, none, List.append_nil]

private theorem emptied (coherent : Coherent session.channel session.journal)
    (live : session.channel.closed = false) (nothing : session.channel.output = some []) :
    session.Flushed := by
  have written := coherent.open_written live
  rw [nothing] at written
  exact (written.trans (List.append_nil _)).symm

variable {deed : Deed}

theorem flushed (coherent : Coherent deed.moment.channel deed.moment.journal)
    (flushes : deed.action.flushes = true) (done : deed.result = .ok ()) : deed.after.Flushed := by
  have behind := coherent.handled deed.handled
  rcases deed.cases with ⟨_, _, failed, _⟩ | ⟨channel, applied, _, same⟩
  · simp [failed] at done
  rw [same] at behind ⊢
  cases action : deed.action <;> rw [action] at applied flushes behind
  case flush =>
    obtain ⟨live, _, _, rfl⟩ := Channel.flush_ok applied
    exact behind.emptied live rfl
  case sendAndFlush =>
    obtain ⟨live, _, _, rfl⟩ := Channel.sendAndFlush_ok applied
    exact behind.emptied live rfl
  all_goals simp [Action.flushes] at flushes

theorem closed (coherent : Coherent deed.moment.channel deed.moment.journal)
    (live : deed.moment.channel.closed = false) (closes : deed.action = .close) :
    deed.after.Flushed ∧ deed.after.channel.output = none := by
  have written := coherent.open_written live
  rcases deed.cases with ⟨_, applied, _, _⟩ | ⟨channel, applied, _, same⟩ <;>
    rw [closes] at applied
  · simp [Action.apply] at applied
  · obtain rfl := Except.ok.inj applied
    rw [same, closes, Channel.close_of_open live, Session.Flushed]
    simpa [Action.events, Channel.deliver] using written.symm

/-- The release of a channel hands over what is held back, unless that is to be dropped. -/
theorem released {leftover : Bytes} (coherent : Coherent session.channel session.journal)
    (passes : session.Passes service closing (.calling (.closing leftover)) here)
    (keeps : session.channel.discard = false) :
    here.Flushed ∧ here.channel.output = none := by
  have still : (session.begin closing).channel.discard = false := by
    rw [Session.begin_discard, keeps]
  have written := (coherent.begun closing).kept still
  rw [Session.begin_journal] at written
  cases passes.entered rfl with
  | closes =>
    rw [Session.Flushed, Session.updateChannel, Channel.release_eq]
    simp [Channel.deliver, keeps, written]

end Coherent

/-! ### Channels that are never closed without a flush -/

theorem Deed.undropped {deed : Deed} (other : deed.action ≠ .closeNow)
    (keeps : deed.moment.channel.discard = false) : deed.after.channel.discard = false := by
  rcases deed.cases with ⟨_, _, _, same⟩ | ⟨channel, applied, _, same⟩ <;> rw [same]
  · exact keeps
  cases action : deed.action <;> rw [action] at applied other
  case send =>
    obtain ⟨_, _, _, rfl⟩ := Channel.send_ok applied
    exact keeps
  case flush =>
    obtain ⟨_, _, _, rfl⟩ := Channel.flush_ok applied
    exact keeps
  case sendAndFlush =>
    obtain ⟨_, _, _, rfl⟩ := Channel.sendAndFlush_ok applied
    exact keeps
  case close =>
    obtain rfl := Except.ok.inj applied
    cases closed : deed.moment.channel.closed with
    | false => rw [Channel.close_of_open closed]; exact keeps
    | true => rw [Channel.close_of_closed closed]; exact keeps
  case closeNow => exact absurd rfl other

theorem Move.undropped {service : Service σ} {point next : Point} {session after : Session σ}
    (move : Move service point session next after)
    (others : ∀ deed ∈ point.deeds service session, deed.action ≠ .closeNow)
    (keeps : session.channel.discard = false) : after.channel.discard = false := by
  obtain ⟨start, finish, before, conduct, behind⟩ := move.conduct
  have work := conduct.keeps (fun moment => moment.channel.discard = false)
    (fun _ _ keeps => keeps) (fun deed member => Deed.undropped (others deed member))
    (before.discard.trans keeps)
  exact behind.discard.trans work

namespace Session

variable {service : Service σ}

theorem step_undropped {session : Session σ} {step : Step}
    (others : ∀ deed, session.Does service deed step → deed.action ≠ .closeNow)
    (keeps : session.channel.discard = false) :
    (session.step service step).channel.discard = false := by
  cases step with
  | arrive bytes =>
    obtain ⟨unread, same⟩ := session.arrive_channel service bytes
    rw [same]
    exact keeps
  | peerEnds | breaks => exact keeps
  | act action =>
    have kept := Deed.undropped (others ⟨action, session.moment⟩ rfl) keeps
    rwa [Deed.after, perform_moment] at kept
  | visit closing =>
    exact visit_keeps (fun _ here => here.channel.discard = false)
      (fun last => last.channel.discard = false) (fun _ => by rw [begin_discard, keeps])
      (fun passes move =>
        move.undropped fun deed member => others deed ⟨_, _, passes, member⟩)
      (fun _ kept => kept) (fun _ _ kept => kept) keeps keeps

def ClosesNow (service : Service σ) (session : Session σ) (steps : List Step) : Prop :=
  ∃ earlier step later deed, steps = earlier ++ step :: later ∧
    (session.live service earlier).Does service deed step ∧ deed.action = .closeNow

theorem live_undropped (session : Session σ) {steps : List Step}
    (others : ¬ session.ClosesNow service steps) (keeps : session.channel.discard = false) :
    (session.live service steps).channel.discard = false := by
  refine live_keeps_unless
    (fun session step => ∃ deed, session.Does service deed step ∧ deed.action = .closeNow)
    (fun session => session.channel.discard = false) (fun session step quiet => ?_) ?_ keeps
  · exact step_undropped fun deed does now => quiet ⟨deed, does, now⟩
  · rintro earlier step later same ⟨deed, does, now⟩
    exact others ⟨earlier, step, later, deed, same, does, now⟩

end Session

/-! ### The law of the output stream -/

/-- What a deed does to the output stream, in a life that goes on to the last session. -/
structure Deed.Lawful (deed : Deed) (last : Session σ) : Prop where
  /-- Whatever fails changes nothing, neither now nor for what is sent later. -/
  failed : ∀ error, deed.result = .error error → deed.after = deed.moment
  sent : deed.after.journal.written = deed.moment.journal.written ++ deed.paid
  flushed : deed.result = .ok () → deed.action.flushes = true → deed.after.Flushed
  /-- A close is final: nothing can be sent after it. -/
  closed : deed.action = .close → deed.moment.channel.closed = false →
    deed.after.Flushed ∧ last.Flushed
  dropped : deed.action = .closeNow → deed.moment.channel.closed = false →
    last.channel.connection.delivered = deed.moment.channel.connection.delivered

theorem Deed.lawful {deed : Deed} {last : Session σ}
    (coherent : Coherent deed.moment.channel deed.moment.journal)
    (onward : deed.after.Onward last) : deed.Lawful last where
  failed := by
    intro error failed
    rcases deed.cases with ⟨_, _, _, same⟩ | ⟨_, _, done, _⟩
    · exact same
    · simp [done] at failed
  sent := deed.after_written
  flushed := fun done flushes => coherent.flushed flushes done
  closed := by
    intro closes live
    obtain ⟨flushed, gone⟩ := coherent.closed live closes
    exact ⟨flushed, flushed.onward gone onward⟩
  dropped := by
    intro drops live
    rcases deed.cases with ⟨_, applied, _, _⟩ | ⟨channel, applied, _, same⟩ <;>
      rw [drops] at applied
    · simp [Action.apply] at applied
    · obtain rfl := Except.ok.inj applied
      rw [same, Channel.closeNow_of_open live] at onward
      exact (onward.silent rfl).2.1

/-- The output stream of a channel in every life, whoever acts on it and whatever writer it sends
through. What was sent is what the deeds have paid, one after another. At every moment the peer has
received a prefix of it, of which nothing is ever taken back; every deed is lawful; and the release
of a channel that nobody closed without a flush leaves nothing behind. -/
theorem Service.output_stream (service : Service σ) (id : Nat) (steps : List Session.Step) :
    let final := (service.session id).live service steps
    final.InOrder ∧
    (∃ deeds : List Deed,
      (∀ deed, deed ∈ deeds ↔ ∃ earlier step later, steps = earlier ++ step :: later ∧
        ((service.session id).live service earlier).Does service deed step) ∧
      deeds.Pairwise (fun first second => first.after.Onward second.moment) ∧
      final.journal.written = deeds.flatMap Deed.paid) ∧
    ∀ earlier step later, steps = earlier ++ step :: later →
      let before := (service.session id).live service earlier
      (∀ moment, before.Sees service step moment → moment.InOrder ∧ moment.Onward final) ∧
      (∀ deed, before.Does service deed step → deed.Lawful final) ∧
      ∀ closing leftover here, step = .visit closing →
        before.Passes service closing (.calling (.closing leftover)) here →
        ¬ (service.session id).ClosesNow service earlier → here.Flushed ∧ final.Flushed := by
  refine ⟨(Coherent.of_lived ⟨id, steps, rfl⟩).inOrder, ?_, ?_⟩
  · obtain ⟨deeds, all, ordered, written⟩ := (service.session id).live_deeds service steps
    exact ⟨deeds, all, ordered, written⟩
  · rintro earlier step later rfl before
    have coherent := Coherent.of_lived (Session.live_lived service id earlier)
    have onward := (before.step service step).live_onward service later
    rw [Session.live_append]
    refine ⟨fun moment sees => ?_, fun deed does => ?_,
      fun closing leftover here same passes others => ?_⟩
    · exact ⟨(coherent.sees sees).inOrder, sees.onward.2.trans onward⟩
    · exact Deed.lawful (coherent.does does).1 (does.onward.2.trans onward)
    · obtain rfl := same
      have keeps := (service.session id).live_undropped others rfl
      obtain ⟨flushed, gone⟩ := coherent.released passes keeps
      exact ⟨flushed, flushed.onward gone (passes.onward.2.trans onward)⟩

end StreamDispatch
