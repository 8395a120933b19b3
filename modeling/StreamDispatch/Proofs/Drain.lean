import StreamDispatch.Proofs.Ending

/-! Graceful shutdown. A session that a sweep lets go has been opened once and closed once, and its
output has reached the peer; and once an endpoint closes and accepts no more, three sweeps are
enough to let everybody go and end the loop. -/
namespace StreamDispatch

variable {σ : Type}

/-! ### Sessions that are done -/

def Event.isClosed : Event → Bool
  | .closed _ => true
  | _ => false

/-- The session was opened once and closed once, and everything that was written has reached the
peer unless the channel was closed without waiting. -/
structure Session.Settled (session : Session σ) : Prop where
  closed : session.channel.closed = true
  openedOnce : session.journal.callbacks.count .opened = 1
  closedOnce : session.journal.callbacks.countP Event.isClosed = 1
  delivered : session.channel.discard = false →
    session.channel.connection.delivered = session.journal.written

namespace Progress

def openings : Progress → Nat
  | fresh => 0
  | live | full | gone => 1

def closings : Progress → Nat
  | fresh | live | full => 0
  | gone => 1

theorem Leads.counts {progress next : Progress} {turn : Turn} (leads : progress.Leads turn next) :
    progress.openings + turn.callbacks.count .opened = next.openings ∧
      progress.closings + turn.callbacks.countP Event.isClosed = next.closings := by
  cases leads with
  | @opens fault => cases fault <;> exact ⟨rfl, rfl⟩
  | goes round _ =>
    cases turn with
    | idle _ fault | fed _ fault => cases fault <;> exact ⟨rfl, rfl⟩
    | stalled | failed | overflowed => exact ⟨rfl, rfl⟩
    | opening | closing => simp [Turn.isRound] at round
  | stalls => exact ⟨rfl, rfl⟩
  | @closes _ _ fault ready =>
    rcases ready with rfl | rfl <;> cases fault <;> exact ⟨rfl, rfl⟩

theorem Row.counts {turns : List Turn} {progress : Progress} (row : Row turns progress) :
    (turns.flatMap Turn.callbacks).count .opened = progress.openings ∧
      (turns.flatMap Turn.callbacks).countP Event.isClosed = progress.closings := by
  induction row with
  | nil => exact ⟨rfl, rfl⟩
  | snoc _ leads ih =>
    obtain ⟨opens, closes⟩ := leads.counts
    simp only [List.flatMap_append, List.flatMap_cons, List.flatMap_nil, List.append_nil,
      List.count_append, List.countP_append, ih.1, ih.2]
    exact ⟨opens, closes⟩

end Progress

/-- Once its close callback is done a session is settled. -/
theorem Session.Lived.settled {service : Service σ} {session : Session σ}
    (lived : session.Lived service) (fired : session.channel.closeFired = true) :
    session.Settled := by
  have coherent := Coherent.of_lived lived
  obtain ⟨opened, unheld⟩ := coherent.fired fired
  have closed := coherent.given unheld
  obtain ⟨id, steps, rfl⟩ := lived
  obtain ⟨turns, progress, row, stands, _, callbacks⟩ := Session.live_turns service id steps
  have gone : progress = .gone := by
    rcases stands with ⟨_, gone⟩ | fits
    · exact gone fired
    · cases progress with
      | gone => rfl
      | fresh => exact absurd (fits.symm.trans opened) (by decide)
      | live | full => simp [fits.2] at fired
  subst gone
  obtain ⟨opens, closes⟩ := row.counts
  refine ⟨closed, by rw [callbacks, opens]; rfl, by rw [callbacks, closes]; rfl, fun kept => ?_⟩
  obtain ⟨dropped, written, drops⟩ := coherent.written
  have output := coherent.output
  rw [closed, eq_comm, Option.isNone_iff_eq_none] at output
  have nothing : dropped = [] := by
    apply Classical.byContradiction
    intro some
    simp [kept] at drops
    exact some drops
  rw [written, output, nothing]
  simp

/-! ### How far a session is from being let go -/

namespace Channel

/-- How many visits of a closing sweep are left to a channel: one opens it, one closes it and one
lets it go. -/
def visitsLeft (channel : Channel) : Nat :=
  if channel.closeFired then 1 else if channel.opened then 2 else 3

/-- Only so many visits are left to a channel, unless a unit of work on it never ends. -/
def Within (visits : Nat) (channel : Channel) : Prop :=
  channel.locked = true ∨ channel.visitsLeft ≤ visits

variable {before after : Channel} {visits : Nat}

theorem visitsLeft_le (channel : Channel) : channel.visitsLeft ≤ 3 := by
  unfold visitsLeft
  split
  · decide
  · split <;> decide

theorem Within.locked {channel : Channel} (within : channel.Within 0) : channel.locked = true := by
  refine within.resolve_right ?_
  unfold visitsLeft
  split
  · decide
  · split <;> decide

theorem one_lt_visitsLeft (unfired : before.closeFired = false) : 1 < before.visitsLeft := by
  unfold visitsLeft
  rw [unfired]
  cases before.opened <;> decide

theorem Steady.visitsLeft_le (steady : before.Steady after) :
    after.visitsLeft ≤ before.visitsLeft := by
  have opened := steady.opened
  have fired := steady.fired
  unfold visitsLeft
  cases wasFired : before.closeFired with
  | true => simp [fired wasFired]
  | false =>
    cases wasOpened : before.opened with
    | true =>
      rw [opened wasOpened]
      cases after.closeFired <;> decide
    | false => exact after.visitsLeft_le

theorem Steady.within (steady : before.Steady after) (within : before.Within visits) :
    after.Within visits :=
  within.imp steady.locked.trans fun left => Nat.le_trans steady.visitsLeft_le left

theorem Within.mono {more : Nat} (within : before.Within visits) (fits : visits ≤ more) :
    before.Within more :=
  within.imp_right fun left => Nat.le_trans left fits

end Channel

theorem Turn.Leaves.visitsLeft_lt {service : Service σ} {before after : Channel} {turn : Turn}
    (leaves : turn.Leaves before after) (starts : turn.Starts service before)
    (asked : before.closeRequested = true) (unfired : before.closeFired = false) :
    after.visitsLeft < before.visitsLeft := by
  cases turn with
  | opening fault =>
    obtain ⟨opened, same⟩ := leaves
    have unopened : before.opened = false := starts
    simp [Channel.visitsLeft, opened, unopened, same, unfired]
  | closing leftover fault =>
    have left : after.visitsLeft = 1 := by simp [Channel.visitsLeft, leaves.2]
    rw [left]
    exact Channel.one_lt_visitsLeft unfired
  | idle pending fault => exact absurd (Channel.probe_empty starts.2).2.1 (by simp [asked])
  | overflowed payload pending => exact absurd (Channel.probe_error starts.2).2.1 (by simp [asked])
  | fed | stalled | failed => exact absurd starts.2 (by simp [asked])

namespace Session

variable {service : Service σ} {session : Session σ} {visits : Nat}

theorem step_within (step : Step) (within : session.channel.Within visits) :
    (session.step service step).channel.Within visits := by
  apply step_keeps (fun session => session.channel.Within visits)
  · intro session bytes more within
    rw [record, updateChannel, Channel.arrive_of_open more]
    exact within
  · exact fun _ within => within
  · exact fun _ within => within
  · intro session action within
    exact (session.perform_handled action).sameInward.steady.within within
  · exact fun _ within => within
  · intro session _ free within
    have left := within.resolve_left (by simp [free])
    obtain ⟨final, ⟨course, same⟩ | ⟨course, same⟩⟩ := session.work_course service <;> rw [same]
    · exact .inr (Nat.le_trans course.steady.visitsLeft_le left)
    · exact .inl course.steady.locked
  · exact within

theorem request_work_visitsLeft (lived : session.Lived service)
    (unfired : session.channel.closeFired = false) :
    (session.request.work service).channel.locked = true ∨
      (session.request.work service).channel.visitsLeft < session.channel.visitsLeft := by
  have coherent := Coherent.of_lived lived
  obtain ⟨_, _, ⟨locked, _⟩ | ⟨turn, _, made, locked | leaves⟩⟩ :=
    session.request.work_turn service fun unopened => (coherent.unopened unopened).1
  · exact .inl locked
  · exact .inl locked
  · exact .inr (leaves.visitsLeft_lt made.starts rfl unfired)

theorem visit_within (lived : session.Lived service)
    (unfired : session.channel.closeFired = false)
    (within : session.channel.Within (visits + 1)) :
    (session.step service (.visit true)).channel.Within visits := by
  cases locked : session.channel.locked with
  | true =>
    have same : session.step service (.visit true) = session.request := by
      simp [Session.step, visit, poll, unfired, locked, updateChannel, request]
    rw [same]
    exact .inl locked
  | false =>
    have same : session.step service (.visit true) = session.request.work service := by
      simp [Session.step, visit, poll, unfired, locked, updateChannel, request]
    have left := within.resolve_left (by simp [locked])
    rw [same]
    exact (request_work_visitsLeft lived unfired).imp_right fun less =>
      Nat.le_of_lt_succ (Nat.lt_of_lt_of_le less left)

end Session

namespace Hub

variable {service : Service σ} {hub : Hub σ} {visits : Nat}

/-- A loop that closes everybody and accepts nobody, and whose sessions are near to being let go. -/
structure Draining (service : Service σ) (visits : Nat) (hub : Hub σ) : Prop where
  sound : hub.Sound service
  closing : hub.signals.closing = true
  accepted : hub.signals.acceptDone = true
  vacant : hub.signals.terminated = true → hub.live.members = []
  within : ∀ member ∈ hub.live.members, member.2.channel.Within visits

/-- The loop has ended, unless somebody is left. -/
def Ended (hub : Hub σ) : Prop := hub.live.members = [] → hub.signals.terminated = true

/-- Steps with so many sweeps that each come by everybody. Between them anything can happen, further
sweeps too. -/
inductive Rounds (service : Service σ) : Nat → Hub σ → List Step → Prop where
  | done (hub : Hub σ) : Rounds service 0 hub []
  | round {hub : Hub σ} (between : List Step) (order : List Nat)
      (all : ∀ id ∈ (hub.run service between).live.ids, id ∈ order)
      (later : Rounds service count ((hub.run service between).sweep service order) rest) :
      Rounds service (count + 1) hub (between ++ .sweep order :: rest)

namespace Draining

theorem run (draining : hub.Draining service visits) (steps : List Step) :
    (hub.run service steps).Draining service visits := by
  apply run_keeps service (Draining service visits)
  · intro _ hub more draining
    simp [draining.accepted] at more
  · intro _ hub more draining
    simp [draining.accepted] at more
  · intro hub id step _ draining
    refine { draining with sound := draining.sound.touch id step, vacant := ?_, within := ?_ }
    · intro finished
      simp [touch, ChannelSet.update, draining.vacant finished]
    · intro member found
      obtain ⟨session, present, same | same⟩ := mem_touch found <;> rw [same]
      · exact Session.step_within step (draining.within _ present)
      · exact draining.within _ present
  · intro hub closing id running draining
    have signals := hub.visit_signals service closing id
    refine ⟨draining.sound.visit closing id, ?_, ?_, ?_, ?_⟩
    · rw [signals, draining.closing]
    · rw [signals, draining.accepted]
    · rw [signals, running]
      simp
    · intro member found
      obtain ⟨session, present, same | same⟩ := mem_visit found <;> rw [same]
      · exact Session.step_within _ (draining.within _ present)
      · exact draining.within _ present
  · intro hub signals asked accepted ended draining
    refine
      { draining with
        sound := { draining.sound with }
        closing := asked draining.closing
        accepted := accepted draining.accepted
        vacant := fun finished => ?_ }
    rcases ended finished with before | ⟨_, none⟩
    · exact draining.vacant before
    · exact none
  · intro _ hub draining
    exact
      { sound := draining.sound.forceClose
        closing := rfl
        accepted := draining.accepted
        vacant := fun _ => rfl
        within := fun member found => by simp [forceClose, ChannelSet.clear] at found }
  · exact draining

end Draining

theorem visits_within (order : List Nat) (sound : hub.Sound service)
    (near : ∀ member ∈ hub.live.members, member.2.channel.Within visits ∨
      member.1 ∈ order ∧ member.2.channel.Within (visits + 1)) :
    ∀ member ∈ (hub.visits service true order).live.members, member.2.channel.Within visits := by
  induction order generalizing hub with
  | nil => exact fun member found => (near member found).resolve_right (by simp)
  | cons id rest ih =>
    refine ih (sound.visit true id) fun member found => ?_
    have other {member : Nat × Session σ} (found : member ∈ hub.live.members)
        (different : member.1 ≠ id) : member.2.channel.Within visits ∨
          member.1 ∈ rest ∧ member.2.channel.Within (visits + 1) := by
      refine (near member found).imp_right fun ⟨visited, within⟩ => ⟨?_, within⟩
      exact (List.mem_cons.mp visited).resolve_left different
    rcases hub.visit_cases service true id with
      ⟨same, missing⟩ | ⟨session, present, ⟨_, same⟩ | ⟨unfired, same⟩⟩ <;> rw [same] at found
    · refine other found fun mine => missing ?_
      exact mine ▸ List.mem_map.mpr ⟨member, found, rfl⟩
    · obtain ⟨kept, different⟩ := ChannelSet.mem_remove.mp found
      exact other kept different
    · obtain ⟨old, kept, ⟨_, same⟩ | ⟨different, same⟩⟩ := ChannelSet.mem_update found
      · have within : session.channel.Within (visits + 1) :=
          (near _ present).elim (fun within => within.mono (Nat.le_succ _)) (·.2)
        rw [same]
        exact .inl (Session.visit_within (sound.housed _ present).1 unfired within)
      · rw [same]
        exact other kept different

/-- A sweep that comes by everybody brings all sessions nearer to being let go, and ends the loop if
nobody is left. -/
theorem Draining.sweep (draining : hub.Draining service (visits + 1)) {order : List Nat}
    (all : ∀ id ∈ hub.live.ids, id ∈ order) :
    (hub.sweep service order).Draining service visits ∧ (hub.sweep service order).Ended := by
  have swept : (hub.sweep service order).Draining service (visits + 1) :=
    draining.run [.sweep order]
  have near : ∀ member ∈ (hub.visits service hub.signals.closing order).live.members,
      member.2.channel.Within visits := by
    rw [draining.closing]
    refine visits_within order draining.sound fun member found => .inr ⟨?_, draining.within _ found⟩
    exact all _ (List.mem_map.mpr ⟨member, found, rfl⟩)
  rcases hub.sweep_cases service order with ⟨ended, same⟩ | ⟨_, ⟨_, _, same⟩ | ⟨more, same⟩⟩ <;>
    rw [same] at swept ⊢
  · refine ⟨{ swept with within := ?_ }, fun _ => ended⟩
    simp [draining.vacant ended]
  · exact ⟨{ swept with within := near }, fun _ => rfl⟩
  · exact ⟨{ swept with within := near }, fun empty => absurd ⟨draining.accepted, empty⟩ more⟩

/-- After as many rounds as there are visits left, whoever is left has a unit of work that never
ends. -/
theorem Rounds.drain {count : Nat} {steps : List Step} (rounds : Rounds service count hub steps)
    (draining : hub.Draining service count) (ended : count = 0 → hub.Ended) :
    (hub.run service steps).Draining service 0 ∧ (hub.run service steps).Ended := by
  induction rounds with
  | done hub => exact ⟨draining, ended rfl⟩
  | round between order all later ih =>
    obtain ⟨nearer, finished⟩ := (draining.run between).sweep all
    rw [run_append]
    exact ih nearer fun _ => finished

theorem Draining.emptied (draining : hub.Draining service 0) (free : hub.Free) :
    hub.live.members = [] := by
  refine List.eq_nil_iff_forall_not_mem.mpr fun member found => ?_
  have locked := (draining.within member found).locked
  simp [free.member found] at locked

/-- A loop that closes and accepts no more, however it got where it is. -/
theorem draining_run (service : Service σ) (steps : List Step)
    (closing : (run service steps {}).signals.closing = true)
    (accepted : (run service steps {}).signals.acceptDone = true) :
    (run service steps {}).Draining service 3 where
  sound := .run service steps
  closing := closing
  accepted := accepted
  vacant := live_of_terminated service steps
  within member _ := .inr member.2.channel.visitsLeft_le

/-! ### Who was let go -/

/-- Sessions that were let go after their close callback keep their places among the others, and
the callback stays done. -/
theorem departed_run (fired : ∀ session ∈ hub.departed, session.channel.closeFired = true)
    (steps : List Step) :
    ∀ session ∈ (hub.run service steps).departed.take hub.departed.length,
      session.channel.closeFired = true := by
  refine (run_keeps service (fun after => hub.departed.length ≤ after.departed.length ∧
    ∀ session ∈ after.departed.take hub.departed.length, session.channel.closeFired = true) steps
    ?_ ?_ ?_ ?_ ?_ ?_ hub ⟨Nat.le_refl _, by simpa using fired⟩).2
  · intro _ after _ ⟨fits, fired⟩
    rcases after.enroll_cases service with ⟨_, same⟩ | ⟨_, same⟩ <;> rw [same]
    · exact ⟨by simp only [List.length_append]; omega, by rwa [List.take_append_of_le_length fits]⟩
    · exact ⟨fits, fired⟩
  · exact fun _ _ _ kept => kept
  · intro after id step _ ⟨fits, fired⟩
    refine ⟨by simpa [touch] using fits, fun session member => ?_⟩
    rw [touch, ← List.map_take] at member
    obtain ⟨old, present, rfl⟩ := List.mem_map.mp member
    split
    · exact old.step_fired step (fired old present)
    · exact fired old present
  · intro after closing id _ ⟨fits, fired⟩
    rcases after.visit_cases service closing id with
      ⟨same, _⟩ | ⟨_, _, ⟨_, same⟩ | ⟨_, same⟩⟩ <;> rw [same]
    · exact ⟨fits, fired⟩
    · exact ⟨by simp only [List.length_append]; omega, by rwa [List.take_append_of_le_length fits]⟩
    · exact ⟨fits, fired⟩
  · exact fun _ _ _ _ _ kept => kept
  · intro _ after ⟨fits, fired⟩
    exact ⟨by simp only [forceClose, List.length_append]; omega,
      by rwa [forceClose, List.take_append_of_le_length fits]⟩

/-- A graceful close drains the loop. However it got where it is, once it closes and accepts no more
and nobody is locked, three rounds of sweeps whose units of work end leave it ended and empty; and
where application code never hangs, nobody is ever locked and every unit ends. Whoever is let go
before the loop is forced to end is settled and stays so; a loop that is never forced only ends once
everybody who ever lived in it is settled; and no two of them share an id before the ids run out. -/
theorem graceful_close_drains (service : Service σ) (steps : List Step) :
    let hub := run service steps {}
    (hub.signals.closing = true → hub.signals.acceptDone = true → hub.Free →
      ∀ rounds, Rounds service 3 hub rounds → hub.Finishes service rounds →
        let last := hub.run service rounds
        last.signals.terminated = true ∧ last.live.members = []) ∧
    (service.Ends → hub.Free ∧ ∀ rounds, hub.Finishes service rounds) ∧
    (∀ earlier later, steps = earlier ++ later → .forceClose ∉ earlier →
      ∀ session ∈ hub.departed.take (run service earlier {}).departed.length,
        session.channel.closeFired = true ∧ session.Settled) ∧
    (.forceClose ∉ steps → hub.signals.terminated = true →
      ∀ earlier later, steps = earlier ++ later → ∀ id ∈ (run service earlier {}).live.ids,
        ∃ session ∈ hub.departed, session.channel.id = id ∧
          session.channel.closeFired = true ∧ session.Settled) ∧
    (steps.countP (·.issues) ≤ Word.bound → hub.known.Nodup) := by
  have sound := Sound.run service steps
  have settled := fun session (member : session ∈ (run service steps {}).departed) =>
    (sound.lived session member).settled
  refine ⟨fun closing accepted free rounds covering finish => ?_, fun ends => ?_, ?_, ?_,
    fun fits => ?_⟩
  · have draining := draining_run service steps closing accepted
    obtain ⟨drained, ended⟩ := covering.drain draining (by simp)
    have empty := drained.emptied (free.run finish)
    exact ⟨ended empty, empty⟩
  · exact ⟨Free.fresh.run (.of_ends ends steps _), fun rounds => .of_ends ends rounds _⟩
  · rintro earlier later rfl unforced session member
    have fired := departed_run (fired_of_unforced service unforced) later session
      (by rwa [run_append] at member)
    exact ⟨fired, settled session (List.mem_of_mem_take member) fired⟩
  · rintro unforced finished earlier later rfl id member
    have known := known_run (Sound.run service earlier) (List.mem_append_right _ member) later
    rw [← run_append, Hub.known, ChannelSet.ids, live_of_terminated service _ finished,
      List.map_nil, List.append_nil] at known
    obtain ⟨session, present, same⟩ := List.mem_map.mp known
    have fired := fired_of_unforced service unforced session present
    exact ⟨session, present, same, fired, settled session present fired⟩
  · have start : Numbered service 0 ({} : Hub σ) :=
      ⟨⟨by simp, by simp, List.nodup_nil⟩, List.nodup_nil, by simp [Hub.known, ChannelSet.ids], rfl⟩
    exact start.run steps (by simpa using fits)

/-- Two channels, one of them with unread input and one not opened yet, and callbacks that panic. -/
theorem graceful_close_drains_panicking :
    let service : Service Unit :=
      { handlers := [], bufferSize := 1, fresh := ()
        callbacks :=
          { onOpen := .panic (.text "open refused"), onClose := fun _ => .panic (.text "not now") } }
    let steps := [.enroll, .arrive 0 [1, 2], .sweep [0], .enroll, .closing, .acceptDone]
    let rounds := [.sweep [1, 0], .arrive 1 [3], .sweep [0, 1], .sweep [0, 1]]
    service.Ends ∧ (run service steps {}).live.ids = [0, 1] ∧
      Rounds service 3 (run service steps {}) rounds ∧
      ((run service steps {}).run service rounds).signals.terminated = true ∧
      ((run service steps {}).run service rounds).live.members = [] := by
  intro service steps rounds
  have ends : service.Ends := ⟨by simp [service], fun call => by cases call <;> trivial⟩
  have covering : Rounds service 3 (run service steps {}) rounds :=
    .round [] [1, 0] (by decide) (.round [.arrive 1 [3]] [0, 1] (by decide)
      (.round [] [0, 1] (by decide) (.done _)))
  obtain ⟨drains, always, _⟩ := graceful_close_drains service steps
  obtain ⟨free, finish⟩ := always ends
  exact ⟨ends, by decide, covering, drains rfl rfl free rounds covering (finish rounds)⟩

/-- The third round is needed by whoever has not been opened yet. -/
example :
    let service : Service Unit := { handlers := [], bufferSize := 1, fresh := () }
    let steps := [.enroll, .closing, .acceptDone, .sweep [0], .sweep [0]]
    (run service steps {}).signals.terminated = false ∧
      (run service (steps ++ [.sweep [0]]) {}).signals.terminated = true := by
  decide

end Hub

end StreamDispatch
