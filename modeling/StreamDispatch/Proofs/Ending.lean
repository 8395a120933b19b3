import StreamDispatch.Proofs.Population

/-! Units of work that end. A unit hangs only where application code does, and one that ends gives
its lock back; so while every unit ends, nobody in a loop stays locked. -/
namespace StreamDispatch

variable {σ α β : Type}

/-! ### Application code -/

namespace Run

/-- The work comes back, with a value or in a panic. -/
def Ends (work : Run σ α) : Prop := ∀ session, (work session).1 ≠ .hung

namespace Ends

theorem pure (value : α) : (Pure.pure value : Run σ α).Ends :=
  fun _ hung => nomatch hung

theorem bind {work : Run σ α} {next : α → Run σ β} (first : work.Ends)
    (later : ∀ value, (next value).Ends) : (work >>= next).Ends := by
  intro session
  have back := first session
  rw [bind_apply]
  split
  · exact later _ _
  · simp
  · rename_i ran
    rw [ran] at back
    exact absurd rfl back

theorem lend {work : Run (σ × Bytes) α} (back : work.Ends) (buffer : Bytes) :
    (Run.lend buffer work).Ends := by
  intro session
  have inner := back (session.withState (session.state, buffer))
  unfold Run.lend
  split <;> rename_i ran <;> rw [ran] at inner
  · simp
  · simp
  · exact absurd rfl inner

theorem beside {work : Run σ α} (back : work.Ends) : (Run.beside work).Ends :=
  fun session => back (session.withState session.state.1)

theorem attempt {work : Run σ α} (back : work.Ends) : (Run.attempt work).Ends := by
  intro session
  have inner := back session
  unfold Run.attempt
  split <;> rename_i ran <;> rw [ran] at inner
  · simp
  · simp
  · exact absurd rfl inner

end Ends

end Run

theorem Program.Ends.run {program : Program σ α} (ends : program.Ends) :
    program.run.Ends := by
  intro session
  induction program generalizing session with
  | done | panic => simp [Program.run]
  | hang => exact ends.elim
  | look next ih => exact ih _ _ (ends _ _) _
  | keep state next ih => exact ih ends _
  | note entry next ih => exact ih ends _
  | act action next ih => exact ih _ (ends _) _

/-- A handler that never hangs, whatever it is given. -/
structure Handler.Ends (handler : Handler σ) : Prop where
  onBuffer : handler.onBuffer.Ends
  onItem : ∀ item, (handler.onItem item).Ends

namespace Handler

variable {handlers : List (Handler σ)}

theorem runItems_ends (ends : ∀ handler ∈ handlers, handler.Ends) (item : Item) :
    (runItems handlers item).Ends := by
  induction handlers generalizing item with
  | nil => exact .pure _
  | cons handler rest ih =>
    refine ((ends handler (List.mem_cons_self ..)).onItem item).run.bind fun result => ?_
    match result with
    | .error _ | .ok none => exact .pure _
    | .ok (some next) =>
      exact ih (fun other member => ends other (List.mem_cons_of_mem _ member)) next

theorem runBuffer_ends (ends : ∀ handler ∈ handlers, handler.Ends) :
    (runBuffer handlers).Ends := by
  induction handlers with
  | nil => exact .pure _
  | cons handler rest ih =>
    have later : ∀ other ∈ rest, other.Ends :=
      fun other member => ends other (List.mem_cons_of_mem _ member)
    refine (ends handler (List.mem_cons_self ..)).onBuffer.run.bind fun result => ?_
    match result with
    | .error _ | .ok .stop => exact .pure _
    | .ok .buffer => exact ih later
    | .ok (.item item) => exact (runItems_ends later item).beside

end Handler

/-! ### Units -/

/-- No application code of a service hangs; it may panic. -/
structure Service.Ends (service : Service σ) : Prop where
  handlers : ∀ handler ∈ service.handlers, handler.Ends
  callbacks : ∀ call : Call, (call.program service.callbacks).Ends

namespace Service.Ends

variable {service : Service σ}

theorem chain (ends : service.Ends) (buffer : Bytes) : (service.chain buffer).Ends := by
  refine ((Handler.runBuffer_ends ends.handlers).lend buffer).bind fun (ended, left) => ?_
  cases ended with
  | ok result => exact .bind (fun _ hung => nomatch hung) fun _ => .pure _
  | error payload =>
    exact .bind (fun _ hung => nomatch hung) fun _ =>
      .bind (fun _ hung => nomatch hung) fun _ => .pure _

theorem move (ends : service.Ends) {point next : Point} {session after : Session σ}
    (move : Move service point session next after) : next ≠ .stuck := by
  cases move with
  | opens | closes | idles | overflows | reads | joins | joinFails | runs | keeps | keepFails =>
    simp
  | runHangs ran => exact absurd (congrArg Prod.fst ran) (ends.chain _ session)
  | @calls _ result _ call _ =>
    cases call <;> cases result <;> simp only [Call.next] <;> try split
    all_goals simp
  | callHangs call ran =>
    exact absurd (congrArg Prod.fst ran) ((ends.callbacks call).run.attempt _)

/-- Where application code ends, every unit of work does. -/
theorem unit (ends : service.Ends) : service.unit.Ends := by
  intro session
  have course := service.unit_course session
  rcases ran : service.unit session with ⟨_ | _ | _, after⟩ <;> rw [ran] at course
  · simp
  · simp
  · have free := course.keeps (fun point _ => point ≠ .stuck) (fun next _ => ends.move next)
      (by simp)
    exact absurd rfl free

end Service.Ends

namespace Session

variable {service : Service σ} {session : Session σ}

/-- If a visit runs a unit of work, the unit ends. -/
def Finishes (service : Service σ) (closing : Bool) (session : Session σ) : Prop :=
  session.channel.closeFired = false → session.channel.locked = false →
    (service.unit (session.begin closing)).1 ≠ .hung

theorem work_unlocked (back : (service.unit session.lock).1 ≠ .hung) :
    (session.work service).channel.locked = false := by
  unfold work
  rw [lock] at back
  split
  · rename_i ran
    rw [ran] at back
    exact absurd rfl back
  · rfl

/-- The lock is given back after a unit that ends. -/
theorem Finishes.unlocked {closing : Bool} (finishes : session.Finishes service closing)
    (free : session.channel.locked = false) :
    (session.step service (.visit closing)).channel.locked = false := by
  rcases session.step_cases service (.visit closing) with same | ⟨_, _, visits, _⟩ |
      ⟨visits, _⟩ | ⟨visits, _⟩ | ⟨_, visits, _⟩ |
      ⟨fired, ⟨_, locked, _⟩ | ⟨visits, _, same⟩ | ⟨visits, _, same⟩⟩
  · rw [same]
    exact free
  · simp at visits
  · simp at visits
  · simp at visits
  · simp at visits
  · simp [free] at locked
  · obtain rfl := Step.visit.inj visits
    rw [same]
    exact work_unlocked (finishes fired free)
  · obtain rfl := Step.visit.inj visits
    rw [same]
    exact work_unlocked (finishes fired free)

/-- Only visits lock a channel. -/
theorem step_locked (session : Session σ) {step : Step}
    (outside : ∀ closing, step ≠ .visit closing) :
    (session.step service step).channel.locked = session.channel.locked := by
  rcases session.step_cases service step with same | ⟨bytes, more, _, same⟩ | ⟨_, same⟩ |
      ⟨_, same⟩ | ⟨action, _, same⟩ |
      ⟨_, ⟨visits, _⟩ | ⟨visits, _⟩ | ⟨visits, _⟩⟩
  · rw [same]
  · rw [same, record, updateChannel, Channel.arrive_of_open more]
  · rw [same]
    rfl
  · rw [same]
    rfl
  · rw [same]
    exact (session.perform_handled action).sameInward.steady.locked
  all_goals exact absurd visits (outside _)

end Session

/-! ### Loops -/

namespace Hub

variable {service : Service σ} {hub : Hub σ}

/-- Nobody in a loop is locked. -/
def Free (hub : Hub σ) : Prop := ∀ session ∈ hub.live.channels, session.channel.locked = false

/-- Every unit of work that the visits of a sweep run ends. -/
def VisitsFinish (service : Service σ) (closing : Bool) : List Nat → Hub σ → Prop
  | [], _ => True
  | id :: rest, hub =>
    (∀ session, (id, session) ∈ hub.live.members → session.Finishes service closing) ∧
      VisitsFinish service closing rest (hub.visit service closing id)

/-- Every unit of work in a run ends. -/
def Finishes (service : Service σ) : List Step → Hub σ → Prop
  | [], _ => True
  | first :: rest, hub =>
    (∀ order, first = .sweep order → hub.VisitsFinish service hub.signals.closing order) ∧
      Finishes service rest (hub.step service first)

theorem Free.of_members (free : ∀ member ∈ hub.live.members, member.2.channel.locked = false) :
    hub.Free := by
  intro session member
  obtain ⟨found, present, rfl⟩ := List.mem_map.mp member
  exact free found present

theorem Free.member (free : hub.Free) {member : Nat × Session σ}
    (found : member ∈ hub.live.members) : member.2.channel.locked = false :=
  free member.2 (List.mem_map.mpr ⟨member, found, rfl⟩)

namespace Free

theorem fresh : ({} : Hub σ).Free := fun _ member => absurd member List.not_mem_nil

theorem visit (free : hub.Free) {closing : Bool} {id : Nat}
    (finish : ∀ session, (id, session) ∈ hub.live.members → session.Finishes service closing) :
    (hub.visit service closing id).Free := by
  rcases hub.visit_cases service closing id with
    ⟨same, _⟩ | ⟨session, present, ⟨_, same⟩ | ⟨_, same⟩⟩ <;> rw [same]
  · exact free
  · exact .of_members fun member found => free.member (ChannelSet.mem_remove.mp found).1
  · refine .of_members fun member found => ?_
    obtain ⟨old, kept, ⟨_, same⟩ | ⟨_, same⟩⟩ := ChannelSet.mem_update found <;> rw [same]
    · exact (finish session present).unlocked (free.member present)
    · exact free.member kept

theorem visits (free : hub.Free) {closing : Bool} {order : List Nat}
    (finish : hub.VisitsFinish service closing order) :
    (hub.visits service closing order).Free := by
  induction order generalizing hub with
  | nil => exact free
  | cons id rest ih => exact ih (free.visit finish.1) finish.2

theorem touch (free : hub.Free) (id : Nat) {step : Session.Step}
    (outside : ∀ closing, step ≠ .visit closing) :
    (hub.touch id (·.step service step)).Free := by
  refine .of_members fun member found => ?_
  obtain ⟨session, present, same | same⟩ := mem_touch found <;> rw [same]
  · exact (session.step_locked outside).trans (free.member present)
  · exact free.member present

theorem enroll (free : hub.Free) : (hub.enroll service).2.Free := by
  rcases hub.enroll_cases service with ⟨_, same⟩ | ⟨_, same⟩ <;> rw [same]
  · exact free
  · refine .of_members fun member found => ?_
    rcases ChannelSet.mem_insert found with old | rfl
    · exact free.member old
    · rfl

theorem step (free : hub.Free) {step : Step}
    (finish : ∀ order, step = .sweep order → hub.VisitsFinish service hub.signals.closing order) :
    (hub.step service step).Free := by
  cases step with
  | enroll =>
    rw [Hub.step]
    split
    · exact free
    · exact free.enroll
  | spend =>
    rw [Hub.step]
    split <;> exact free
  | arrive id bytes => exact free.touch id (by simp)
  | peerEnds id => exact free.touch id (by simp)
  | breaks id => exact free.touch id (by simp)
  | act id action => exact free.touch id (by simp)
  | closing | acceptDone => exact free
  | forceClose => exact fresh
  | sweep order =>
    rw [Hub.step]
    rcases hub.sweep_cases service order with ⟨_, same⟩ | ⟨_, ⟨_, _, same⟩ | ⟨_, same⟩⟩ <;> rw [same]
    · exact free
    · exact free.visits (finish order rfl)
    · exact free.visits (finish order rfl)

/-- While every unit ends nobody stays locked. -/
theorem run (free : hub.Free) {steps : List Step} (finish : hub.Finishes service steps) :
    (hub.run service steps).Free := by
  induction steps generalizing hub with
  | nil => exact free
  | cons first rest ih => exact ih (free.step finish.1) finish.2

end Free

/-! ### Loops whose application code ends -/

theorem VisitsFinish.of_ends (ends : service.Ends) (closing : Bool) (order : List Nat)
    (hub : Hub σ) : hub.VisitsFinish service closing order := by
  induction order generalizing hub with
  | nil => trivial
  | cons id rest ih => exact ⟨fun _ _ _ _ => ends.unit _, ih _⟩

theorem Finishes.of_ends (ends : service.Ends) (steps : List Step) (hub : Hub σ) :
    hub.Finishes service steps := by
  induction steps generalizing hub with
  | nil => trivial
  | cons first rest ih => exact ⟨fun order _ => .of_ends ends _ order hub, ih _⟩

end Hub

end StreamDispatch
