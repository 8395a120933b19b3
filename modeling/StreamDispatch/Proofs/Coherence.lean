import StreamDispatch.Proofs.Life

/-! What holds of a channel's flags and of its output in every life. The output side is there as
long as the channel is open, the close callback comes last, and what was written has reached the
peer, is held back, or was dropped by a close without a flush. -/
namespace StreamDispatch

variable {σ : Type}

structure Coherent (channel : Channel) (journal : Journal) : Prop where
  output : channel.closed = channel.output.isNone
  given : channel.reading = false → channel.closed = true
  discarded : channel.discard = true → channel.closed = true
  fired : channel.closeFired = true → channel.opened = true ∧ channel.reading = false
  unopened : channel.opened = false → channel.pending = [] ∧ channel.reading = true
  written : ∃ dropped,
    journal.written = channel.connection.delivered ++ channel.output.getD [] ++ dropped ∧
      (dropped ≠ [] → channel.discard = true)

namespace Coherent

variable {channel after : Channel} {journal events : Journal}

theorem open_written (coherent : Coherent channel journal) (live : channel.closed = false) :
    journal.written = channel.connection.delivered ++ channel.output.getD [] := by
  obtain ⟨dropped, same, drops⟩ := coherent.written
  have none : dropped = [] := by
    apply Classical.byContradiction
    intro some
    simp [coherent.discarded (drops some)] at live
  rw [same, none, List.append_nil]

/-- Events other than sends change nothing. -/
theorem extend (coherent : Coherent channel journal) (none : events.written = []) :
    Coherent channel (journal ++ events) :=
  { coherent with written := by simpa [none] using coherent.written }

/-- Whoever sends or flushes finds the channel open, and it stays so. -/
private theorem delivered {bytes kept data : Bytes} (coherent : Coherent channel journal)
    (live : channel.closed = false) {held : Bytes} (output : channel.output = some held)
    (whole : bytes ++ kept = held ++ data) (wrote : events.written = data) :
    Coherent { channel.deliver bytes with output := some kept } (journal ++ events) where
  output := by simp [Channel.deliver, live]
  given := coherent.given
  discarded := coherent.discarded
  fired := coherent.fired
  unopened := coherent.unopened
  written := by
    have before := coherent.open_written live
    refine ⟨[], ?_, by simp⟩
    simp [wrote, before, output, Channel.deliver, whole]

theorem close (coherent : Coherent channel journal) : Coherent channel.close journal := by
  cases closed : channel.closed with
  | true =>
    rw [Channel.close_of_closed closed]
    exact coherent
  | false =>
    rw [Channel.close_of_open closed]
    exact
      { output := rfl
        given := fun _ => rfl
        discarded := fun _ => rfl
        fired := coherent.fired
        unopened := coherent.unopened
        written := ⟨[], by simpa [Channel.deliver] using coherent.open_written closed, by simp⟩ }

theorem closeNow (coherent : Coherent channel journal) : Coherent channel.closeNow journal := by
  cases closed : channel.closed with
  | true =>
    rw [Channel.closeNow_of_closed closed]
    obtain ⟨dropped, same, _⟩ := coherent.written
    exact { coherent with discarded := fun _ => closed, written := ⟨dropped, same, fun _ => rfl⟩ }
  | false =>
    rw [Channel.closeNow_of_open closed]
    exact
      { output := rfl
        given := fun _ => rfl
        discarded := fun _ => rfl
        fired := coherent.fired
        unopened := coherent.unopened
        written := ⟨channel.output.getD [], by simpa using coherent.open_written closed,
          fun _ => rfl⟩ }

theorem apply (coherent : Coherent channel journal) {action : Action}
    (applied : action.apply channel = .ok after) : Coherent after (journal ++ action.events) := by
  cases action with
  | send data =>
    obtain ⟨live, held, output, rfl⟩ := Channel.send_ok applied
    exact coherent.delivered live output (channel.writer.whole _ held data)
      (by simp [Action.events, Journal.written])
  | flush =>
    obtain ⟨live, held, output, rfl⟩ := Channel.flush_ok applied
    exact coherent.delivered live output rfl rfl
  | sendAndFlush data =>
    obtain ⟨live, held, output, rfl⟩ := Channel.sendAndFlush_ok applied
    exact coherent.delivered live output (List.append_nil _)
      (by simp [Action.events, Journal.written])
  | close =>
    obtain rfl := Except.ok.inj applied
    simpa [Action.events] using coherent.close
  | closeNow =>
    obtain rfl := Except.ok.inj applied
    simpa [Action.events] using coherent.closeNow

theorem handled {last : Journal} (coherent : Coherent channel journal)
    (work : Handled channel journal after last) : Coherent after last := by
  induction work with
  | nothing => exact coherent
  | noted entry _ ih => exact ih.extend rfl
  | acted action applied _ ih => exact ih.apply applied

theorem release (coherent : Coherent channel journal) (opened : channel.opened = true) :
    Coherent channel.release journal := by
  rw [Channel.release_eq]
  exact
    { output := rfl
      given := fun _ => rfl
      discarded := fun _ => rfl
      fired := fun _ => ⟨opened, rfl⟩
      unopened := fun unopened => by
        simp only [Channel.deliver] at unopened
        simp [opened] at unopened
      written := by
        obtain ⟨dropped, same, drops⟩ := coherent.written
        cases discard : channel.discard with
        | false =>
          exact ⟨dropped, by simp [same, Channel.deliver],
            by simpa [Channel.deliver, discard] using drops⟩
        | true =>
          exact ⟨channel.output.getD [] ++ dropped, by simp [same, Channel.deliver],
            fun _ => discard⟩ }

/-- What the channel is like at a point of a unit. -/
def AtPoint : Point → Channel → Prop
  | .calling .opening, channel => channel.opened = false
  | .calling (.closing _), channel => channel.opened = true ∧ channel.reading = false
  | .begun, _ | .over, _ | .stuck, _ => True
  | .read .., channel | .offered _, channel | .chained .., channel
  | .calling (.idle _), channel | .calling (.fed _), channel
  | .calling (.report ..), channel => channel.opened = true

/-- Once its callback is over a call has left its mark. -/
theorem called {before : Channel} (call : Call) (earlier : AtPoint (.calling call) before)
    (same : before.SameInward channel) (coherent : Coherent channel journal)
    (bufferSize : Nat) (pending : Bytes) (result : Except Panic Unit) :
    Coherent (call.mark channel) journal ∧
      AtPoint (call.next bufferSize pending result) (call.mark channel) := by
  obtain ⟨_, _, _, _, rfl⟩ := same
  cases call with
  | opening =>
    constructor
    · exact
        { coherent with
          fired := fun fired => by
            have opened := (coherent.fired fired).1
            simp only [AtPoint] at earlier
            simp [earlier] at opened
          unopened := fun unopened => by simp [Call.mark] at unopened }
    · cases result <;> simp [Call.next, AtPoint, Call.mark]
  | idle pending =>
    refine ⟨coherent, ?_⟩
    cases result
    · exact earlier
    · trivial
  | fed left =>
    refine ⟨coherent, ?_⟩
    cases result
    · exact earlier
    · change AtPoint (if bufferSize ≤ left.length then _ else _) _
      split
      · exact earlier
      · trivial
  | closing leftover =>
    constructor
    · exact { coherent with fired := fun _ => earlier }
    · cases result
      · exact earlier.1
      · trivial
  | report error pending => exact ⟨coherent, trivial⟩

theorem move {service : Service σ} {point next : Point} {session last : Session σ}
    (move : Move service point session next last)
    (before : Coherent session.channel session.journal ∧ AtPoint point session.channel) :
    Coherent last.channel last.journal ∧ AtPoint next last.channel := by
  obtain ⟨coherent, fits⟩ := before
  cases move with
  | opens unopened => exact ⟨coherent, unopened⟩
  | closes opened _ =>
    refine ⟨coherent.release opened, ?_⟩
    rw [Session.updateChannel, Channel.release_eq]
    exact ⟨opened, rfl⟩
  | idles opened _ | overflows opened _ => exact ⟨coherent, opened⟩
  | reads opened found =>
    obtain ⟨_, _, _, _, rfl⟩ := Channel.probe_data found
    exact ⟨Coherent.extend { coherent with } rfl, opened⟩
  | joins placed =>
    obtain ⟨same, grown⟩ := Service.place_after placed
    simp only [Session.updateChannel, same, grown]
    refine ⟨Coherent.extend { coherent with unopened := fun unopened => ?_ }
      (Placement.written_events _), fits⟩
    simp only [AtPoint] at fits
    simp [fits] at unopened
  | joinFails placed =>
    obtain ⟨same, grown⟩ := Service.place_after placed
    rw [same, grown]
    exact ⟨coherent.extend (Placement.written_events _), fits⟩
  | runs ran =>
    obtain ⟨_, middle, _, work, grown, channel⟩ := Service.chain_after ran
    have kept := coherent.handled work
    have opened : middle.channel.opened = true := by
      obtain ⟨_, _, _, _, same⟩ := work.sameInward
      rw [same]
      exact fits
    rw [grown]
    rcases channel with ⟨_, same⟩ | ⟨_, _, _, same⟩ <;> rw [same]
    · exact ⟨kept.extend rfl, opened⟩
    · exact ⟨Coherent.extend { kept with } rfl, opened⟩
  | runHangs ran => exact ⟨coherent.handled (Service.chain_hung ran), trivial⟩
  | @keeps _ _ _ _ _ result placed =>
    obtain ⟨same, grown⟩ := Service.place_after placed
    simp only [Session.updateChannel, same, grown]
    have opened : session.channel.opened = true := fits
    refine ⟨Coherent.extend { coherent with unopened := fun unopened => ?_ }
      (Placement.written_events _), ?_⟩
    · simp only [Channel.keep] at unopened
      simp [opened] at unopened
    · cases result <;> exact opened
  | keepFails placed =>
    obtain ⟨same, grown⟩ := Service.place_after placed
    rw [same, grown]
    exact ⟨coherent.extend (Placement.written_events _), fits⟩
  | calls call ran =>
    have work := Run.attempt_handled ran
    have noted : Coherent session.channel (session.journal ++ [call.event]) :=
      coherent.extend (by cases call <;> rfl)
    exact called call fits work.sameInward (noted.handled work) _ _ _
  | callHangs call ran =>
    have noted : Coherent session.channel (session.journal ++ [call.event]) :=
      coherent.extend (by cases call <;> rfl)
    exact ⟨noted.handled (Run.attempt_handled ran), trivial⟩

/-- A unit of work keeps a session coherent, however it ends. -/
theorem work {service : Service σ} {session : Session σ}
    (coherent : Coherent session.channel session.journal) :
    Coherent (session.work service).channel (session.work service).journal :=
  Session.work_keeps (fun session => Coherent session.channel session.journal)
    (fun point session => Coherent session.channel session.journal ∧ AtPoint point session.channel)
    (fun coherent => ⟨{ coherent with }, trivial⟩) move (fun _ before => { before.1 with })
    (fun _ before => before.1) coherent

theorem step {service : Service σ} (session : Session σ) (step : Session.Step)
    (coherent : Coherent session.channel session.journal) :
    Coherent (session.step service step).channel (session.step service step).journal := by
  apply Session.step_keeps (fun session => Coherent session.channel session.journal)
  · intro session bytes more coherent
    rw [Session.record, Session.updateChannel, Channel.arrive_of_open more]
    exact Coherent.extend { coherent with } rfl
  · intro session coherent
    exact Coherent.extend { coherent with } rfl
  · intro session coherent
    exact { coherent with }
  · intro session action coherent
    exact coherent.handled (session.perform_handled action)
  · intro session coherent
    exact { coherent with }
  · intro session _ _ coherent
    exact coherent.work
  · exact coherent

theorem fresh (service : Service σ) (id : Nat) :
    Coherent (service.session id).channel (service.session id).journal where
  output := rfl
  given := by simp [Service.session]
  discarded := by simp [Service.session]
  fired := by simp [Service.session]
  unopened := fun _ => ⟨rfl, rfl⟩
  written := ⟨[], rfl, by simp⟩

/-- Coherent in every life. -/
theorem of_lived {service : Service σ} {session : Session σ} (lived : session.Lived service) :
    Coherent session.channel session.journal := by
  obtain ⟨id, steps, rfl⟩ := lived
  exact Session.live_keeps (fun session => Coherent session.channel session.journal) step
    (fresh service id) steps

end Coherent

end StreamDispatch
