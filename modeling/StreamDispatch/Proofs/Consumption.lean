import StreamDispatch.Proofs.Course
import StreamDispatch.Proofs.Cutting
import StreamDispatch.Stage.Basic

/-! Handlers that only take bytes off the front of their buffer. However a chain of them ends, it
leaves an end of what it was offered; all ready-made stages are of this kind, the one that puts
other bytes in the buffer excepted. -/
namespace StreamDispatch

variable {σ α β : Type}

/-- The program never leaves more in the buffer than an end of what was there. -/
def Program.TakesFrom : Bytes → Program (σ × Bytes) α → Prop
  | _, .done _ | _, .panic _ | _, .hang => True
  | held, .look next => ∀ view state, (next view (state, held)).TakesFrom held
  | held, .keep (_, left) next => left <:+ held ∧ next.TakesFrom left
  | held, .note _ next => next.TakesFrom held
  | held, .act _ next => ∀ result, (next result).TakesFrom held

def Handler.TakesFromFront (handler : Handler σ) : Prop :=
  ∀ held, handler.onBuffer.TakesFrom held

def Service.TakesFromFront (service : Service σ) : Prop :=
  ∀ handler ∈ service.handlers, handler.TakesFromFront

theorem Session.perform_state (session : Session σ) (action : Action) :
    (session.perform action).2.state = session.state := by
  unfold perform
  split
  · cases action <;> rfl
  · rfl

theorem Program.TakesFrom.run {program : Program (σ × Bytes) α} (session : Session (σ × Bytes))
    (takes : program.TakesFrom session.state.2) :
    (program.run session).2.state.2 <:+ session.state.2 := by
  induction program generalizing session with
  | done | panic | hang => exact List.suffix_refl _
  | look next ih => exact ih _ _ session (takes session.channel.view session.state.1)
  | keep state next ih =>
    exact (ih { session with state } takes.2).trans takes.1
  | note entry next ih => exact ih (session.record (.noted entry)) takes
  | act action next ih =>
    have same := session.perform_state action
    have later := ih (session.perform action).1 (session.perform action).2
      (by rw [same]; exact takes _)
    rwa [same] at later

theorem Handler.runBuffer_suffix {handlers : List (Handler σ)}
    (takes : ∀ handler ∈ handlers, handler.TakesFromFront) (session : Session (σ × Bytes)) :
    (runBuffer handlers session).2.state.2 <:+ session.state.2 := by
  induction handlers generalizing session with
  | nil => exact List.suffix_refl _
  | cons handler rest ih =>
    have first := (takes handler (List.mem_cons_self ..) session.state.2).run session
    have later := ih (fun other member => takes other (List.mem_cons_of_mem _ member))
    rw [runBuffer, Run.bind_apply]
    split
    · rename_i result after ran
      rw [ran] at first
      rcases result with _ | _ | _ | _
      · exact first
      · exact first
      · exact (later after).trans first
      · exact first
    · rename_i after ran
      rw [ran] at first
      exact first
    · rename_i after ran
      rw [ran] at first
      exact first

theorem Run.lend_left {work : Run (σ × Bytes) α} {buffer left : Bytes} {session after : Session σ}
    {ended : Except Panic α} (lent : Run.lend buffer work session = (.done (ended, left), after)) :
    left = (work (session.withState (session.state, buffer))).2.state.2 := by
  unfold Run.lend at lent
  split at lent
  · rename_i ran
    rw [ran]
    exact (Prod.mk.inj (Outcome.done.inj (Prod.mk.inj lent).1)).2.symm
  · rename_i ran
    rw [ran]
    exact (Prod.mk.inj (Outcome.done.inj (Prod.mk.inj lent).1)).2.symm
  · simp at lent

/-- A chain run leaves an end of what it was offered, also when it fails or panics. -/
theorem Service.chain_suffix {service : Service σ} (takes : service.TakesFromFront)
    {buffer rest : Bytes} {result : Except Error Unit} {session after : Session σ}
    (ran : service.chain buffer session = (.done (result, rest), after)) : rest <:+ buffer := by
  obtain ⟨ended, middle, lent, _⟩ := Service.chain_after ran
  rw [Run.lend_left lent]
  exact Handler.runBuffer_suffix takes _

/-! ### The ready-made stages -/

namespace Framing

/-- What framing makes of what it decoded. -/
def verdict : Except FrameFault (List Bytes) → Except Error Next
  | .error fault => .error (.frame fault)
  | .ok [] => .ok .stop
  | .ok frames => .ok (.item (.frames frames))

/-- Framing looks at the buffer, leaves the rest, and passes on what it decoded. -/
theorem handler_onBuffer (framing : Framing) :
    (framing.handler : Handler σ).onBuffer =
      .look fun _ state => .look fun _ inner =>
        .keep (inner.1, (framing.decode state.2).2)
          (.done (verdict (framing.decode state.2).1)) := by
  refine congrArg Program.look (funext fun _ => funext fun state => ?_)
  simp only [Program.bind]
  rcases framing.decode state.2 with ⟨_ | _ | _, rest⟩ <;> rfl

theorem handler_run (framing : Framing) (session : Session (σ × Bytes)) :
    framing.handler.onBuffer.run session =
      (.done (verdict (framing.decode session.state.2).1),
        { session with state := (session.state.1, (framing.decode session.state.2).2) }) := by
  simp only [handler_onBuffer, Program.run]

end Framing

namespace Stage

theorem onBytes_takesFromFront {work : Bytes → Bytes × Next}
    (takes : ∀ bytes, (work bytes).1 <:+ bytes) : (onBytes work : Handler σ).TakesFromFront :=
  fun held _ _ _ _ => ⟨takes held, trivial⟩

theorem onItems_takesFromFront (work : Item → Program σ (Except Error (Option Item))) :
    (onItems work).TakesFromFront := fun _ => trivial

/-- Bytes without a line end stay together. -/
theorem splitLines_none {bytes : Bytes} (none : (splitLines bytes).1 = []) :
    (splitLines bytes).2 = bytes := by
  induction bytes with
  | nil => rfl
  | cons byte rest ih =>
    rw [splitLines] at none ⊢
    split at none <;> simp_all

theorem splitLines_suffix (bytes : Bytes) : (splitLines bytes).2 <:+ bytes := by
  induction bytes with
  | nil => exact List.suffix_refl _
  | cons byte rest ih =>
    rw [splitLines]
    split
    · rename_i same
      rw [same] at ih
      exact ih.trans (List.suffix_cons ..)
    · rename_i last _ same
      have unsplit : (splitLines rest).1 = [] := by rw [same]
      have whole := splitLines_none unsplit
      rw [same] at whole
      obtain rfl : last = rest := whole
      exact List.suffix_refl _
    · rename_i same
      rw [same] at ih
      exact ih.trans (List.suffix_cons ..)

theorem onHit_takesFromFront {only : Option Bytes}
    {buffer : Program (σ × Bytes) (Except Error Next)}
    {item : Program σ (Except Error (Option Item))} (takes : ∀ held, buffer.TakesFrom held) :
    (onHit only buffer item).TakesFromFront := by
  intro held
  cases only with
  | none => exact takes held
  | some _ => trivial

/-- Every stage but the one that replaces the buffer takes from its front. -/
theorem takesFromFront (stage : Stage) (keeps : ∀ content, stage ≠ .replace content) :
    (stage.handler : Handler σ).TakesFromFront := by
  cases stage with
  | framing rule =>
    intro held
    have left := rule.rest_suffix held
    rw [← rule.decode_rest] at left
    rw [handler, rule.handler_onBuffer]
    exact fun _ _ _ _ => ⟨left, trivial⟩
  | take size => exact onBytes_takesFromFront fun bytes => List.drop_suffix ..
  | skip size => exact onBytes_takesFromFront fun bytes => List.drop_suffix ..
  | lines => exact onBytes_takesFromFront splitLines_suffix
  | count | text => exact onItems_takesFromFront _
  | replace content => exact absurd rfl (keeps content)
  | collect => exact fun held _ _ _ _ => ⟨List.nil_suffix, trivial⟩
  | echo => exact fun held _ => trivial
  | peek => exact fun held _ _ => trivial
  | wantNumber pass | wantText pass => exact fun held _ _ => trivial
  | reject only reason | failInput only reason => exact onHit_takesFromFront fun _ => trivial
  | panic only payload => exact onHit_takesFromFront fun _ => trivial
  | stop only => exact onHit_takesFromFront fun _ => trivial
  | hangup only =>
    exact onHit_takesFromFront fun held _ _ => ⟨List.nil_suffix, fun _ => trivial⟩
  | close only => exact onHit_takesFromFront fun held result => trivial
  | answer content => exact fun held _ _ => ⟨List.nil_suffix, fun result => trivial⟩
  | stuck => exact fun held => trivial

end Stage

end StreamDispatch
