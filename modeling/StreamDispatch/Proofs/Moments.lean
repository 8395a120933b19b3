import StreamDispatch.Proofs.Deeds

/-! What happens inside a step of a life. A step passes through moments: the points of a unit of
work, and between them what each deed finds and leaves. They come in one order, and so do the deeds;
what was sent in a life is what its deeds have paid. -/
namespace StreamDispatch

variable {σ : Type}

/-! ### The points of a unit -/

/-- No move leads on from the point. -/
def Point.isLast : Point → Bool
  | .over | .stuck => true
  | _ => false

theorem Point.eq_of_isLast {point : Point} (last : point.isLast = true) :
    point = .over ∨ point = .stuck := by
  cases point <;> simp [isLast] at last ⊢

theorem Move.not_last {service : Service σ} {point next : Point} {session after : Session σ}
    (move : Move service point session next after) : point.isLast = false := by
  cases move <;> rfl

theorem Point.deeds_last {service : Service σ} {point : Point} (last : point.isLast = true)
    (session : Session σ) : point.deeds service session = [] := by
  rcases eq_of_isLast last with rfl | rfl <;> rfl

/-- A deed of a point finds what application code has left since, after the callback was noted. -/
theorem Point.deeds_handled {service : Service σ} {point : Point} {here : Session σ} {deed : Deed}
    (member : deed ∈ point.deeds service here) :
    ∃ events : Journal, events.written = [] ∧ events.received = [] ∧
      Handled here.channel (here.journal ++ events) deed.moment.channel deed.moment.journal := by
  cases point with
  | offered buffer =>
    have conduct := Handler.runBuffer_conduct service.handlers
      (here.withState (here.state, buffer))
    refine ⟨[], rfl, rfl, ?_⟩
    rw [List.append_nil]
    exact (conduct.between member).1
  | calling call =>
    have conduct := (call.program service.callbacks).run_conduct (here.record call.event)
    exact ⟨[call.event], by cases call <;> rfl, by cases call <;> rfl, (conduct.between member).1⟩
  | begun | read | chained | _ => simp [deeds] at member

def Point.isEntry : Point → Bool
  | .read .. | .calling .opening | .calling (.idle _) | .calling (.closing _) => true
  | _ => false

/-- A callback is followed by the report of a panic or of a full buffer, or by nothing. -/
theorem Call.next_cases (call : Call) (bufferSize : Nat) (pending : Bytes)
    (result : Except Panic Unit) :
    call.next bufferSize pending result = .over ∨
      ∃ error given, call.next bufferSize pending result = .calling (.report error given) := by
  unfold Call.next
  split
  case h_6 =>
    split
    · exact .inr ⟨_, _, rfl⟩
    · exact .inl rfl
  all_goals first | exact .inl rfl | exact .inr ⟨_, _, rfl⟩

namespace Move

variable {service : Service σ} {point next : Point} {session after : Session σ}

theorem not_begun (move : Move service point session next after) : next ≠ .begun := by
  cases move with
  | @calls reached result _ call _ =>
    rcases call.next_cases service.bufferSize reached.channel.pending result with
      same | ⟨_, _, same⟩ <;>
      rw [same] <;> simp
  | opens | closes | idles | overflows | reads | joins | joinFails | runs | runHangs | keeps
  | keepFails | callHangs => simp

theorem entry (move : Move service point session next after) (entry : next.isEntry = true) :
    point = .begun := by
  cases move with
  | @calls reached result _ call _ =>
    rcases call.next_cases service.bufferSize reached.channel.pending result with
      same | ⟨_, _, same⟩ <;>
      rw [same] at entry <;> simp [Point.isEntry] at entry
  | @keeps _ _ _ _ _ result _ => cases result <;> simp [Point.isEntry, Call.ofResult] at entry
  | opens | closes | idles | reads => rfl
  | overflows | joins | joinFails | runs | runHangs | keepFails | callHangs =>
    simp [Point.isEntry] at entry

theorem to_offered {buffer : Bytes} (move : Move service point session next after)
    (offered : next = .offered buffer) : ∃ pending fresh, point = .read pending fresh := by
  cases move with
  | joins => exact ⟨_, _, rfl⟩
  | @calls reached result _ call _ =>
    rcases call.next_cases service.bufferSize reached.channel.pending result with
      same | ⟨_, _, same⟩ <;>
      rw [same] at offered <;> simp at offered
  | opens | closes | idles | overflows | reads | joinFails | runs | runHangs | keeps | keepFails
  | callHangs => simp at offered

end Move

namespace Course

variable {service : Service σ} {point middle last : Point} {session between final : Session σ}

/-- Whatever a course comes to, it comes from there to its last point. -/
theorem rest_of (whole : Course service point session last final) (ends : last.isLast = true)
    (reached : Course service point session middle between) :
    Course service middle between last final := by
  induction reached with
  | rest => exact whole
  | move first _ ih =>
    cases whole with
    | rest => simp [first.not_last] at ends
    | move other later =>
      obtain ⟨rfl, rfl⟩ := other.unique first
      exact ih later

/-- One point of a unit comes before another, and a move lies between. -/
def Precedes (service : Service σ) (first second : Point × Session σ) : Prop :=
  ∃ next after, Move service first.1 first.2 next after ∧
    Course service next after second.1 second.2

/-- The points of a course that has come to its last one, in order. What its deeds have paid is what
was written. -/
theorem points (course : Course service point session last final) (ends : last.isLast = true) :
    ∃ points : List (Point × Session σ),
      (∀ next there, (next, there) ∈ points ↔ Course service point session next there) ∧
      points.Pairwise (Precedes service) ∧
      final.journal.written = session.journal.written ++
        (points.flatMap fun here => here.1.deeds service here.2).flatMap Deed.paid := by
  induction course with
  | @rest point session =>
    refine ⟨[(point, session)], fun next there => ?_, List.pairwise_singleton .., ?_⟩
    · constructor
      · intro member
        obtain ⟨rfl, rfl⟩ := Prod.mk.inj (List.mem_singleton.mp member)
        exact .rest
      · intro reached
        cases reached with
        | rest => exact List.mem_singleton_self _
        | move first _ => simp [first.not_last] at ends
    · simp [Point.deeds_last ends]
  | @move point session middle between _ _ first later ih =>
    obtain ⟨points, all, ordered, written⟩ := ih ends
    refine ⟨(point, session) :: points, fun next there => ?_, ?_, ?_⟩
    · rw [List.mem_cons, all]
      constructor
      · rintro (same | reached)
        · obtain ⟨rfl, rfl⟩ := Prod.mk.inj same
          exact .rest
        · exact .move first reached
      · intro reached
        cases reached with
        | rest => exact .inl rfl
        | move other onwards =>
          obtain ⟨rfl, rfl⟩ := other.unique first
          exact .inr onwards
    · refine List.pairwise_cons.mpr ⟨?_, ordered⟩
      rintro ⟨next, there⟩ member
      exact ⟨middle, between, first, (all next there).mp member⟩
    · rw [written, first.written]
      simp

end Course

/-- How a unit of work leaves its session at its last point: work that hangs keeps the lock. -/
def Point.left : Point → Session σ → Session σ
  | .over, session => session.unlock
  | _, session => session

namespace Point

variable (point : Point) (session : Session σ)

@[simp] theorem left_journal : (point.left session).journal = session.journal := by
  cases point <;> rfl

@[simp] theorem left_pending :
    (point.left session).channel.pending = session.channel.pending := by
  cases point <;> rfl

end Point

namespace Session

section

variable (closing : Bool) (session : Session σ)

@[simp] theorem begin_journal : (session.begin closing).journal = session.journal := by
  cases closing <;> rfl

@[simp] theorem begin_pending :
    (session.begin closing).channel.pending = session.channel.pending := by
  cases closing <;> rfl

@[simp] theorem begin_opened :
    (session.begin closing).channel.opened = session.channel.opened := by
  cases closing <;> rfl

@[simp] theorem begin_discard :
    (session.begin closing).channel.discard = session.channel.discard := by
  cases closing <;> rfl

@[simp] theorem begin_locked : (session.begin closing).channel.locked = true := by
  cases closing <;> rfl

end

variable {service : Service σ} {session here : Session σ} {closing : Bool} {point : Point}

/-- A visit runs a unit of work, and the unit passes through the point. -/
structure Passes (service : Service σ) (session : Session σ) (closing : Bool) (point : Point)
    (here : Session σ) : Prop where
  unfired : session.channel.closeFired = false
  free : session.channel.locked = false
  reached : Course service .begun (session.begin closing) point here

/-- The action is taken in a step: by the application, or in a unit of work by its callbacks and
handlers. -/
def Does (service : Service σ) (session : Session σ) (deed : Deed) : Step → Prop
  | .arrive _ | .peerEnds | .breaks => False
  | .act action => deed = ⟨action, session.moment⟩
  | .visit closing => ∃ point here, session.Passes service closing point here ∧
    deed ∈ point.deeds service here

/-- The moments of a step: its two ends, the points of a unit of work, and what each deed finds and
what it leaves. -/
inductive Sees (service : Service σ) (session : Session σ) : Step → Moment → Prop where
  | begins (step : Step) : Sees service session step session.moment
  | passes {closing : Bool} {point : Point} {here : Session σ}
      (passes : session.Passes service closing point here) :
      Sees service session (.visit closing) here.moment
  | finds {deed : Deed} {step : Step} (does : session.Does service deed step) :
      Sees service session step deed.moment
  | leaves {deed : Deed} {step : Step} (does : session.Does service deed step) :
      Sees service session step deed.after
  | ends (step : Step) : Sees service session step (session.step service step).moment

theorem begin_onward (closing : Bool) (session : Session σ) :
    session.Onward (session.begin closing) := by
  have still := Onward.refl session
  cases closing with
  | false => exact { still with flags := { still.flags with } }
  | true => exact { still with flags := { still.flags with closeRequested := fun _ => rfl } }

theorem left_onward (point : Point) (session : Session σ) :
    session.Onward (point.left session) := by
  have still := Onward.refl session
  cases point <;> exact { still with flags := { still.flags with } }

theorem visit_course (unfired : session.channel.closeFired = false)
    (free : session.channel.locked = false) (closing : Bool) :
    ∃ last final, Course service .begun (session.begin closing) last final ∧ last.isLast = true ∧
      session.step service (.visit closing) = last.left final := by
  have same : session.step service (.visit closing) =
      (if closing then session.request else session).work service := by
    cases closing <;> simp [step, visit, poll, unfired, free, updateChannel, request]
  obtain ⟨final, ⟨course, ran⟩ | ⟨course, ran⟩⟩ :=
    (if closing then session.request else session).work_course service
  · exact ⟨.over, final, course, rfl, same.trans ran⟩
  · exact ⟨.stuck, final, course, rfl, same.trans ran⟩

/-- A visit runs a unit of work, or it changes nothing but that it may ask for a close. -/
theorem visit_cases (service : Service σ) (session : Session σ) (closing : Bool) :
    session.channel.closeFired = false ∧ session.channel.locked = false ∨
      (∀ point here, ¬ session.Passes service closing point here) ∧
        (session.step service (.visit closing) = session ∨
          session.step service (.visit closing) = session.request) := by
  cases unfired : session.channel.closeFired with
  | true =>
    refine .inr ⟨fun _ _ passes => ?_, .inl (by simp [step, visit, unfired])⟩
    simp [passes.unfired] at unfired
  | false =>
    cases free : session.channel.locked with
    | false => exact .inl ⟨rfl, rfl⟩
    | true =>
      refine .inr ⟨fun _ _ passes => ?_, ?_⟩
      · simp [passes.free] at free
      · cases closing with
        | false => exact .inl (by simp [step, visit, poll, unfired, free])
        | true => exact .inr (by simp [step, visit, poll, unfired, free, updateChannel, request])

namespace Passes

theorem begun (unfired : session.channel.closeFired = false)
    (free : session.channel.locked = false) (closing : Bool) :
    session.Passes service closing .begun (session.begin closing) := ⟨unfired, free, .rest⟩

theorem next (passes : session.Passes service closing point here)
    {next : Point} {there : Session σ} (move : Move service point here next there) :
    session.Passes service closing next there :=
  ⟨passes.unfired, passes.free, passes.reached.trans (.single move)⟩

theorem locked (passes : session.Passes service closing point here) :
    here.channel.locked = true :=
  passes.reached.steady.locked.trans (begin_locked closing session)

/-- The rest of a unit that passes a point, up to the end of its visit. -/
theorem ends (passes : session.Passes service closing point here) :
    ∃ last final, Course service point here last final ∧ last.isLast = true ∧
      session.step service (.visit closing) = last.left final := by
  obtain ⟨last, final, course, isLast, same⟩ := visit_course passes.unfired passes.free closing
  exact ⟨last, final, course.rest_of isLast passes.reached, isLast, same⟩

theorem moves (passes : session.Passes service closing point here) (more : point.isLast = false) :
    ∃ next there, Move service point here next there := by
  obtain ⟨last, final, course, isLast, _⟩ := passes.ends
  cases course with
  | rest => simp [more] at isLast
  | move first _ => exact ⟨_, _, first⟩

/-- What the moves of the unit keep holds at every point it passes. -/
theorem keeps (holds : Point → Session σ → Prop)
    (passes : session.Passes service closing point here)
    (begun : holds .begun (session.begin closing))
    (move : ∀ {point here next there}, session.Passes service closing point here →
      Move service point here next there → holds point here → holds next there) :
    holds point here := by
  have both := passes.reached.keeps
    (fun point here => session.Passes service closing point here ∧ holds point here)
    (fun {_ _ _ _} first stands => ⟨stands.1.next first, move stands.1 first stands.2⟩)
    ⟨.begun passes.unfired passes.free closing, begun⟩
  exact both.2

/-- A point is the beginning of its unit, or a move of the unit leads to it. -/
theorem previous (passes : session.Passes service closing point here) :
    point = .begun ∧ here = session.begin closing ∨
      ∃ earlier before, session.Passes service closing earlier before ∧
        Move service earlier before point here :=
  passes.keeps (fun point here => point = .begun ∧ here = session.begin closing ∨
      ∃ earlier before, session.Passes service closing earlier before ∧
        Move service earlier before point here)
    (.inl ⟨rfl, rfl⟩) fun passing move _ => .inr ⟨_, _, passing, move⟩

/-- The first move of a unit is the one to an entry. -/
theorem entered (passes : session.Passes service closing point here)
    (entry : point.isEntry = true) :
    Move service .begun (session.begin closing) point here := by
  rcases passes.previous with ⟨rfl, _⟩ | ⟨earlier, before, passing, move⟩
  · simp [Point.isEntry] at entry
  · obtain rfl := move.entry entry
    rcases passing.previous with ⟨_, rfl⟩ | ⟨_, _, _, back⟩
    · exact move
    · exact absurd rfl back.not_begun

theorem joined {buffer : Bytes} (passes : session.Passes service closing (.offered buffer) here) :
    ∃ pending fresh before, session.Passes service closing (.read pending fresh) before ∧
      Move service (.read pending fresh) before (.offered buffer) here := by
  rcases passes.previous with ⟨same, _⟩ | ⟨earlier, before, passing, move⟩
  · simp at same
  · obtain ⟨pending, fresh, rfl⟩ := move.to_offered rfl
    exact ⟨pending, fresh, before, passing, move⟩

theorem onward (passes : session.Passes service closing point here) :
    session.Onward here ∧ here.Onward (session.step service (.visit closing)) := by
  obtain ⟨last, final, course, _, same⟩ := passes.ends
  refine ⟨(begin_onward closing session).trans passes.reached.onward, ?_⟩
  rw [same]
  exact course.onward.trans (left_onward last final)

theorem deeds_onward (passes : session.Passes service closing point here) {deed : Deed}
    (member : deed ∈ point.deeds service here) :
    here.Onward deed.moment ∧ deed.after.Onward (session.step service (.visit closing)) := by
  have more : point.isLast = false := by
    by_contra last
    simp [Point.deeds_last (by simpa using last)] at member
  obtain ⟨next, there, move⟩ := passes.moves more
  obtain ⟨first, last⟩ := move.deeds_onward member
  exact ⟨first, last.trans (passes.next move).onward.2⟩

end Passes

/-- A visit comes to the last point of a unit, or it runs none. -/
theorem visit_ends (holds : Session σ → Prop)
    (finished : ∀ final, session.Passes service closing .over final → holds final.unlock)
    (stuck : ∀ final, session.Passes service closing .stuck final → holds final)
    (still : holds session) (asked : holds session.request) :
    holds (session.step service (.visit closing)) := by
  rcases session.visit_cases service closing with ⟨unfired, free⟩ | ⟨_, same | same⟩
  · obtain ⟨last, final, course, isLast, same⟩ := visit_course unfired free closing
    rw [same]
    rcases Point.eq_of_isLast isLast with rfl | rfl
    · exact finished final ⟨unfired, free, course⟩
    · exact stuck final ⟨unfired, free, course⟩
  · rw [same]
    exact still
  · rw [same]
    exact asked

/-- What holds of a session and, in its form at each point, is kept by the moves of a unit holds
after a visit. -/
theorem visit_keeps (stands : Point → Session σ → Prop) (holds : Session σ → Prop)
    (begun : session.channel.locked = false → stands .begun (session.begin closing))
    (move : ∀ {point here next there}, session.Passes service closing point here →
      Move service point here next there → stands point here → stands next there)
    (finished : ∀ final, stands .over final → holds final.unlock)
    (stuck : ∀ final, session.Passes service closing .stuck final → stands .stuck final →
      holds final)
    (still : holds session) (asked : holds session.request) :
    holds (session.step service (.visit closing)) :=
  visit_ends holds
    (fun final passes => finished final (passes.keeps stands (begun passes.free) move))
    (fun final passes => stuck final passes (passes.keeps stands (begun passes.free) move))
    still asked

/-! ### The order of moments -/

theorem step_onward (service : Service σ) (session : Session σ) (step : Step) :
    session.Onward (session.step service step) := by
  have still := Onward.refl session
  rcases session.step_cases service step with same | ⟨bytes, more, _, same⟩ | ⟨_, same⟩ | ⟨_, same⟩ |
      ⟨action, _, same⟩ | ⟨unfired, ⟨_, _, same⟩ | ⟨rfl, free, _⟩ | ⟨rfl, free, _⟩⟩
  · rw [same]
    exact still
  · rw [same, record, updateChannel, Channel.arrive_of_open more]
    have arrived : StreamDispatch.Onward session.channel session.journal
        { session.channel with
          connection := { session.channel.connection with
            unread := session.channel.connection.unread ++ bytes } } session.journal :=
      { still with flags := { still.flags with } }
    exact arrived.extend rfl
  · rw [same]
    have ended : StreamDispatch.Onward session.channel session.journal session.channel.peerEnds
        session.journal := { still with flags := { still.flags with } }
    exact ended.extend rfl
  · rw [same]
    exact { still with flags := { still.flags with } }
  · rw [same]
    exact (session.perform_handled action).onward
  · rw [same]
    exact { still with flags := { still.flags with closeRequested := fun _ => rfl } }
  · exact (Passes.begun unfired free true).onward.elim .trans
  · exact (Passes.begun unfired free false).onward.elim .trans

theorem live_onward (service : Service σ) (session : Session σ) (steps : List Step) :
    session.Onward (session.live service steps) := by
  induction steps generalizing session with
  | nil => exact .refl session
  | cons first rest ih => exact (session.step_onward service first).trans (ih _)

/-- What a deed finds comes after the beginning of its step, and what it leaves before the end. -/
theorem Does.onward {deed : Deed} {step : Step} (does : session.Does service deed step) :
    session.Onward deed.moment ∧ deed.after.Onward (session.step service step) := by
  cases step with
  | arrive bytes | peerEnds | breaks => exact absurd does id
  | act action =>
    obtain rfl := does
    rw [Deed.after, perform_moment]
    exact ⟨.refl session, .refl _⟩
  | visit closing =>
    obtain ⟨point, here, passes, member⟩ := does
    obtain ⟨first, last⟩ := passes.deeds_onward member
    exact ⟨passes.onward.1.trans first, last⟩

theorem Sees.onward {step : Step} {moment : Moment} (sees : session.Sees service step moment) :
    session.Onward moment ∧ moment.Onward (session.step service step) := by
  cases sees with
  | begins => exact ⟨.refl session, session.step_onward service step⟩
  | passes passes => exact passes.onward
  | @finds deed _ does => exact ⟨does.onward.1, deed.handled.onward.trans does.onward.2⟩
  | @leaves deed _ does => exact ⟨does.onward.1.trans deed.handled.onward, does.onward.2⟩
  | ends => exact ⟨session.step_onward service step, .refl _⟩

/-- The points that a visit passes, in order; its deeds are those of its points. -/
theorem visit_points (service : Service σ) (session : Session σ) (closing : Bool) :
    ∃ points : List (Point × Session σ),
      (∀ point here, (point, here) ∈ points ↔ session.Passes service closing point here) ∧
      points.Pairwise (Course.Precedes service) ∧
      (session.step service (.visit closing)).journal.written = session.journal.written ++
        (points.flatMap fun here => here.1.deeds service here.2).flatMap Deed.paid := by
  rcases session.visit_cases service closing with ⟨unfired, free⟩ | ⟨none, same⟩
  · obtain ⟨last, final, course, isLast, same⟩ := visit_course unfired free closing
    obtain ⟨points, all, ordered, written⟩ := course.points isLast
    refine ⟨points, fun point here => ?_, ordered, ?_⟩
    · rw [all]
      exact ⟨fun reached => ⟨unfired, free, reached⟩, Passes.reached⟩
    · rw [same, Point.left_journal, written, begin_journal]
  · refine ⟨[], fun point here => ?_, .nil, ?_⟩
    · simp [none point here]
    · rcases same with same | same <;> rw [same] <;> simp [request, updateChannel]

private theorem Passes.deeds_ordered (passes : session.Passes service closing point here) :
    (point.deeds service here).Pairwise fun first second => first.after.Onward second.moment := by
  by_cases more : point.isLast
  · rw [Point.deeds_last more]
    exact .nil
  · obtain ⟨next, there, move⟩ := passes.moves (by simpa using more)
    obtain ⟨_, _, _, conduct, _⟩ := move.conduct
    exact conduct.ordered.imp Handled.onward

/-- Deeds come one after another, and none of them before those of an earlier point. -/
private theorem deeds_ordered {points : List (Point × Session σ)}
    (passing : ∀ point here, (point, here) ∈ points → session.Passes service closing point here)
    (ordered : points.Pairwise (Course.Precedes service)) :
    (points.flatMap fun here => here.1.deeds service here.2).Pairwise
      fun first second => first.after.Onward second.moment := by
  refine List.pairwise_flatMap.mpr ⟨?_, ordered.imp_of_mem ?_⟩
  · exact fun here member => (passing here.1 here.2 member).deeds_ordered
  · rintro ⟨point, here⟩ ⟨next, there⟩ _ later ⟨_, between, move, course⟩ first mine second theirs
    have behind := (move.deeds_onward mine).2.trans course.onward
    exact behind.trans ((passing next there later).deeds_onward theirs).1

/-- The deeds of a step, in the order they are done. Nothing else is written than what they pay. -/
theorem step_deeds (service : Service σ) (session : Session σ) (step : Step) :
    ∃ deeds : List Deed, (∀ deed, deed ∈ deeds ↔ session.Does service deed step) ∧
      deeds.Pairwise (fun first second => first.after.Onward second.moment) ∧
      (session.step service step).journal.written =
        session.journal.written ++ deeds.flatMap Deed.paid := by
  cases step with
  | arrive bytes =>
    refine ⟨[], by simp [Does], .nil, ?_⟩
    simp only [Session.step, arrive]
    split <;> simp [record, updateChannel, Journal.written]
  | peerEnds =>
    refine ⟨[], by simp [Does], .nil, ?_⟩
    simp [Session.step, peerEnds, record, updateChannel, Journal.written]
  | breaks => exact ⟨[], by simp [Does], .nil, by simp [Session.step, breaks, updateChannel]⟩
  | act action =>
    refine ⟨[⟨action, session.moment⟩], by simp [Does], List.pairwise_singleton .., ?_⟩
    have wrote := Deed.after_written ⟨action, session.moment⟩
    rw [Deed.after, perform_moment] at wrote
    rw [List.flatMap_singleton]
    exact wrote
  | visit closing =>
    obtain ⟨points, all, ordered, written⟩ := session.visit_points service closing
    refine ⟨_, fun deed => ?_, deeds_ordered (fun point here => (all point here).mp) ordered,
      written⟩
    simp [Does, all]

theorem live_deeds (service : Service σ) (session : Session σ) (steps : List Step) :
    ∃ deeds : List Deed,
      (∀ deed, deed ∈ deeds ↔ ∃ earlier step later, steps = earlier ++ step :: later ∧
        (session.live service earlier).Does service deed step) ∧
      deeds.Pairwise (fun first second => first.after.Onward second.moment) ∧
      (session.live service steps).journal.written =
        session.journal.written ++ deeds.flatMap Deed.paid := by
  induction steps using List.reverseRecOn with
  | nil => exact ⟨[], by simp, .nil, by simp⟩
  | append_singleton earlier last ih =>
    obtain ⟨deeds, all, ordered, written⟩ := ih
    obtain ⟨more, mine, next, wrote⟩ := (session.live service earlier).step_deeds service last
    refine ⟨deeds ++ more, fun deed => ?_, List.pairwise_append.mpr ⟨ordered, next, ?_⟩, ?_⟩
    · rw [List.mem_append, all, mine]
      constructor
      · rintro (⟨before, step, after, rfl, does⟩ | does)
        · exact ⟨before, step, after ++ [last], by simp, does⟩
        · exact ⟨earlier, last, [], rfl, does⟩
      · rintro ⟨before, step, after, split, does⟩
        rcases after.eq_nil_or_concat with rfl | ⟨front, back, rfl⟩
        · obtain ⟨rfl, same⟩ := List.append_inj' split rfl
          obtain rfl := List.singleton_inj.mp same
          exact .inr does
        · rw [List.concat_eq_append, ← List.cons_append, ← List.append_assoc] at split
          obtain ⟨rfl, -⟩ := List.append_inj' split rfl
          exact .inl ⟨before, step, front, rfl, does⟩
    · intro first old second new
      obtain ⟨before, step, after, rfl, does⟩ := (all first).mp old
      have behind := ((session.live service before).step service step).live_onward service after
      rw [live_append] at mine
      exact (does.onward.2.trans behind).trans ((mine second).mp new).onward.1
    · rw [live_snoc, wrote, written, List.flatMap_append, List.append_assoc]

def deedMoments (deeds : List Deed) : List Moment :=
  deeds.flatMap fun deed => [deed.moment, deed.after]

theorem mem_deedMoments {deeds : List Deed} {moment : Moment} :
    moment ∈ deedMoments deeds ↔ ∃ deed ∈ deeds, moment = deed.moment ∨ moment = deed.after := by
  simp [deedMoments]

private theorem deedMoments_ordered {deeds : List Deed}
    (ordered : deeds.Pairwise fun first second => first.after.Onward second.moment) :
    (deedMoments deeds).Pairwise Session.Onward := by
  refine List.pairwise_flatMap.mpr ⟨fun deed _ => by simpa using deed.handled.onward,
    ordered.imp ?_⟩
  intro first second behind
  have later := behind.trans second.handled.onward
  simpa using ⟨⟨first.handled.onward.trans behind, first.handled.onward.trans later⟩, behind, later⟩

/-- The moments of a unit from one of its points to the next. -/
private def pointMoments (service : Service σ) (here : Point × Session σ) : List Moment :=
  here.2.moment :: deedMoments (here.1.deeds service here.2)

private theorem mem_pointMoments {here : Point × Session σ} {moment : Moment} :
    moment ∈ pointMoments service here ↔ moment = here.2.moment ∨
      ∃ deed ∈ here.1.deeds service here.2, moment = deed.moment ∨ moment = deed.after := by
  rw [pointMoments, List.mem_cons, mem_deedMoments]

private theorem Passes.moments_onward (passes : session.Passes service closing point here)
    {moment : Moment} (member : moment ∈ pointMoments service (point, here)) :
    here.Onward moment ∧ ∀ {next : Point} {there : Session σ},
      Move service point here next there → moment.Onward there := by
  rcases mem_pointMoments.mp member with rfl | ⟨deed, mine, rfl | rfl⟩
  · exact ⟨.refl here, Move.onward⟩
  · have first := (passes.deeds_onward mine).1
    exact ⟨first, fun move => deed.handled.onward.trans (move.deeds_onward mine).2⟩
  · have first := (passes.deeds_onward mine).1
    exact ⟨first.trans deed.handled.onward, fun move => (move.deeds_onward mine).2⟩

private theorem points_moments {points : List (Point × Session σ)}
    (passing : ∀ point here, (point, here) ∈ points → session.Passes service closing point here)
    (ordered : points.Pairwise (Course.Precedes service)) :
    (points.flatMap (pointMoments service)).Pairwise Session.Onward := by
  refine List.pairwise_flatMap.mpr ⟨?_, ordered.imp_of_mem ?_⟩
  · rintro ⟨point, here⟩ member
    have passes := passing point here member
    refine List.pairwise_cons.mpr ⟨fun moment later => ?_, deedMoments_ordered passes.deeds_ordered⟩
    exact (passes.moments_onward (List.mem_cons_of_mem _ later)).1
  · rintro ⟨point, here⟩ ⟨next, there⟩ now later ⟨_, _, move, course⟩ first mine second theirs
    have left := ((passing point here now).moments_onward mine).2 move
    have right := ((passing next there later).moments_onward theirs).1
    exact (left.trans course.onward).trans right

/-- The moments between the two ends of a step, in order. -/
private theorem inner_moments (service : Service σ) (session : Session σ) (step : Step) :
    ∃ moments : List Moment,
      (∀ moment, moment ∈ moments → session.Sees service step moment) ∧
      (∀ closing point here, step = .visit closing → session.Passes service closing point here →
        here.moment ∈ moments) ∧
      (∀ deed, session.Does service deed step → deed.moment ∈ moments ∧ deed.after ∈ moments) ∧
      moments.Pairwise Session.Onward := by
  cases step with
  | arrive bytes | peerEnds | breaks =>
    exact ⟨[], by simp, by simp, fun _ does => absurd does id, .nil⟩
  | act action =>
    have does : session.Does service ⟨action, session.moment⟩ (.act action) := rfl
    refine ⟨deedMoments [⟨action, session.moment⟩], fun moment member => ?_, by simp,
      fun deed same => ?_, deedMoments_ordered (List.pairwise_singleton ..)⟩
    · obtain ⟨deed, mine, rfl | rfl⟩ := mem_deedMoments.mp member <;>
        obtain rfl := List.mem_singleton.mp mine
      · exact .finds does
      · exact .leaves does
    · obtain rfl := same
      simp [mem_deedMoments]
  | visit closing =>
    obtain ⟨points, all, ordered, _⟩ := session.visit_points service closing
    refine ⟨points.flatMap (pointMoments service), fun moment member => ?_, ?_, ?_,
      points_moments (fun point here => (all point here).mp) ordered⟩
    · obtain ⟨⟨point, here⟩, passing, mine⟩ := List.mem_flatMap.mp member
      have passes := (all point here).mp passing
      rcases mem_pointMoments.mp mine with rfl | ⟨deed, does, rfl | rfl⟩
      · exact .passes passes
      · exact .finds ⟨point, here, passes, does⟩
      · exact .leaves ⟨point, here, passes, does⟩
    · rintro _ point here ⟨⟩ passes
      exact List.mem_flatMap.mpr ⟨(point, here), (all point here).mpr passes,
        mem_pointMoments.mpr (.inl rfl)⟩
    · rintro deed ⟨point, here, passes, mine⟩
      have found := (all point here).mpr passes
      exact ⟨List.mem_flatMap.mpr ⟨_, found, mem_pointMoments.mpr (.inr ⟨deed, mine, .inl rfl⟩)⟩,
        List.mem_flatMap.mpr ⟨_, found, mem_pointMoments.mpr (.inr ⟨deed, mine, .inr rfl⟩)⟩⟩

/-- The moments of a step in order: each is what has become of all before it. -/
theorem step_moments (service : Service σ) (session : Session σ) (step : Step) :
    ∃ moments : List Moment, (∀ moment, moment ∈ moments ↔ session.Sees service step moment) ∧
      moments.Pairwise Session.Onward := by
  obtain ⟨inner, seen, passed, done, ordered⟩ := session.inner_moments service step
  refine ⟨session.moment :: (inner ++ [(session.step service step).moment]), fun moment => ?_, ?_⟩
  · simp only [List.mem_cons, List.mem_append, List.not_mem_nil, or_false]
    constructor
    · rintro (rfl | mine | rfl)
      · exact .begins step
      · exact seen moment mine
      · exact .ends step
    · intro sees
      cases sees with
      | begins => exact .inl rfl
      | passes passes => exact .inr (.inl (passed _ _ _ rfl passes))
      | finds does => exact .inr (.inl (done _ does).1)
      | leaves does => exact .inr (.inl (done _ does).2)
      | ends => exact .inr (.inr rfl)
  · refine List.pairwise_cons.mpr ⟨fun moment later => ?_,
      List.pairwise_append.mpr ⟨ordered, List.pairwise_singleton .., ?_⟩⟩
    · rcases List.mem_append.mp later with mine | last
      · exact (seen moment mine).onward.1
      · obtain rfl := List.mem_singleton.mp last
        exact session.step_onward service step
    · rintro moment mine last member
      obtain rfl := List.mem_singleton.mp member
      exact (seen moment mine).onward.2

end Session

/-! ### Coherence at every moment -/

namespace Coherent

variable {service : Service σ} {session here : Session σ} {closing : Bool} {point : Point}

theorem begun (coherent : Coherent session.channel session.journal) (closing : Bool) :
    Coherent (session.begin closing).channel (session.begin closing).journal := by
  cases closing <;> exact { coherent with }

theorem passes (coherent : Coherent session.channel session.journal)
    (passes : session.Passes service closing point here) :
    Coherent here.channel here.journal ∧ AtPoint point here.channel :=
  passes.reached.keeps
    (fun point here => Coherent here.channel here.journal ∧ AtPoint point here.channel)
    Coherent.move ⟨coherent.begun closing, trivial⟩

theorem point_deed (coherent : Coherent here.channel here.journal) {deed : Deed}
    (member : deed ∈ point.deeds service here) :
    Coherent deed.moment.channel deed.moment.journal := by
  obtain ⟨events, silent, _, work⟩ := Point.deeds_handled member
  exact (coherent.extend silent).handled work

theorem does (coherent : Coherent session.channel session.journal) {deed : Deed}
    {step : Session.Step} (does : session.Does service deed step) :
    Coherent deed.moment.channel deed.moment.journal ∧
      Coherent deed.after.channel deed.after.journal := by
  have found : Coherent deed.moment.channel deed.moment.journal := by
    cases step with
    | arrive bytes | peerEnds | breaks => exact absurd does id
    | act action =>
      obtain rfl := does
      exact coherent
    | visit closing =>
      obtain ⟨point, here, passes, member⟩ := does
      exact (coherent.passes passes).1.point_deed member
  exact ⟨found, found.handled deed.handled⟩

/-- A session that is coherent at the beginning of a step is coherent at every moment of it. -/
theorem sees (coherent : Coherent session.channel session.journal) {step : Session.Step}
    {moment : Moment} (sees : session.Sees service step moment) :
    Coherent moment.channel moment.journal := by
  cases sees with
  | begins => exact coherent
  | passes passes => exact (coherent.passes passes).1
  | finds does => exact (coherent.does does).1
  | leaves does => exact (coherent.does does).2
  | ends => exact coherent.step session step

end Coherent

end StreamDispatch
