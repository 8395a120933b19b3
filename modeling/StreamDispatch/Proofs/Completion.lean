import StreamDispatch.Proofs.Fitting

/-! Every conversation ends. A turn either does some of the work that is left or finds nothing to
do, and when no turn finds anything to do the sender's task is over. -/
namespace StreamDispatch.Echo

variable {σ τ : Type}

/-! ### The work that is left -/

def Task.workLeft : Task → Nat
  | .submitting messages => messages.length + 2
  | .waiting => 1
  | .finished _ => 0

/-- A byte that is not carried counts twice: it is to be carried, and then to be read. -/
def directionLeft (span carried : Nat) (target : Channel) : Nat :=
  2 * (span - carried) + target.workLeft + (!target.connection.ended).toNat

namespace Exchange

def span (width : LengthWidth) (payloads : List Bytes) : Nat :=
  width.size * payloads.length + payloads.flatten.length

def workLeft (span : Nat) (exchange : Exchange) : Nat :=
  exchange.task.workLeft + (exchange.total - exchange.printed.length) +
    directionLeft span exchange.carriedOut exchange.server.channel +
    directionLeft span exchange.carriedBack exchange.client.channel +
    (!exchange.clientEnded).toNat

/-- The exchange without what was written down about it. -/
def bare (exchange : Exchange) : Exchange :=
  { exchange with
    server := { exchange.server with journal := [] }
    client := { exchange.client with journal := [] } }

/-- There is nothing to carry, and the end of the stream was carried if there is one. -/
def Carried (source target : Channel) (carried count : Nat) : Prop :=
  (source.connection.delivered.drop carried).take count = [] ∧
    (source.output = none → carried = source.connection.delivered.length →
      target.connection.ended = true)

/-- The turn would find nothing to do. -/
def Idle (exchange : Exchange) : Turn → Prop
  | .serverSweep => exchange.server.channel.closeFired = true ∨
    exchange.server.channel.Waits exchange.serverService.bufferSize
  | .clientSweep => exchange.client.channel.closeFired = true ∧ exchange.clientEnded = true ∨
    exchange.client.channel.Waits exchange.clientService.bufferSize
  | .carryOut count =>
    Carried exchange.client.channel exchange.server.channel exchange.carriedOut count
  | .carryBack count =>
    Carried exchange.server.channel exchange.client.channel exchange.carriedBack count
  | .proceed => (∃ result, exchange.task = .finished result) ∨
    exchange.task = .waiting ∧ exchange.printed.length ≠ exchange.total ∧
      exchange.client.state = []
  | .notice => exchange.task = .waiting → exchange.clientEnded = false

end Exchange

theorem Link.carry_works {framing : Framing} {limit carried count moved span : Nat}
    {frames : List Bytes} {source : Session σ} {target after : Session τ}
    (link : Link framing limit source.channel target.channel carried frames)
    (ran : Exchange.carry source target carried count = (after, moved))
    (bounded : source.channel.connection.delivered.length ≤ span) :
    directionLeft span moved after.channel < directionLeft span carried target.channel ∨
      Exchange.Carried source.channel target.channel carried count ∧
        after.channel = target.channel ∧ after.state = target.state ∧ moved = carried := by
  obtain ⟨counted, state, channel⟩ := Exchange.carry_eq ran rfl link.ended_nothing
  have within := link.within
  by_cases nothing : (source.channel.connection.delivered.drop carried).take count = []
  · rw [nothing, List.append_nil] at channel
    rw [nothing] at counted
    obtain rfl : moved = carried := counted
    by_cases ends : target.channel.connection.ended = false ∧ source.channel.output = none ∧
        moved = source.channel.connection.delivered.length
    · left
      obtain ⟨more, none, all⟩ := ends
      rw [channel]
      simp [directionLeft, Channel.workLeft, Channel.atEnd, more, none, ← all]
    · right
      have kept : (target.channel.connection.ended || source.channel.atEnd &&
          decide (moved = source.channel.connection.delivered.length)) =
            target.channel.connection.ended := by
        cases more : target.channel.connection.ended with
        | true => rfl
        | false =>
          rw [Bool.false_or, Bool.and_eq_false_imp]
          exact fun gone => decide_eq_false fun all =>
            ends ⟨more, Option.isNone_iff_eq_none.mp gone, all⟩
      rw [kept] at channel
      refine ⟨⟨nothing, fun none all => ?_⟩, channel, state, rfl⟩
      by_contra more
      exact ends ⟨Bool.eq_false_iff.mpr more, none, all⟩
  · left
    have some := List.length_pos_iff.mpr nothing
    have less (before now : Bool) : (!(before || now)).toNat ≤ (!before).toNat := by
      cases before <;> cases now <;> decide
    have flag := less target.channel.connection.ended (source.channel.atEnd &&
      decide (moved = source.channel.connection.delivered.length))
    rw [List.length_take, List.length_drop] at some counted
    rw [channel]
    simp only [directionLeft, Channel.workLeft, List.length_append, List.length_take,
      List.length_drop]
    omega

/-- Where nothing can be carried, however much may be carried at once, everything is. -/
theorem Link.all_of_carried {framing : Framing} {limit carried : Nat} {frames : List Bytes}
    {source target : Channel} (link : Link framing limit source target carried frames)
    (idle : ∀ count, Exchange.Carried source target carried count) :
    carried = source.connection.delivered.length := by
  have within := link.within
  have nothing := congrArg List.length (idle source.connection.delivered.length).1
  rw [List.length_take, List.length_drop, List.length_nil] at nothing
  omega

theorem Link.row_of_all {framing : Framing} {limit carried : Nat} {frames row : List Bytes}
    {source target : Channel} (link : Link framing limit source target carried frames)
    (all : carried = source.connection.delivered.length) (read : target.connection.unread = [])
    (sent : source.connection.delivered = row.flatten)
    (whole : ∀ frame ∈ row, framing.IsFrame frame) : frames = row := by
  have reading := link.reading.whole
  rw [all, List.take_length, sent, read, List.append_nil] at reading
  obtain ⟨same, _⟩ := Framing.row_front
    (fun frame member => (link.reading.frame frame member).1) whole reading
  rwa [Framing.cut_of_stop link.reading.stops, List.append_nil] at same

namespace Exchange

variable {width : LengthWidth} {payloads submitted echoed received : List Bytes}
  {exchange after : Exchange} {turn : Turn}

theorem workLeft_bare (span : Nat) (exchange : Exchange) :
    exchange.bare.workLeft span = exchange.workLeft span := rfl

theorem idle_bare (exchange : Exchange) (turn : Turn) :
    exchange.bare.Idle turn ↔ exchange.Idle turn := by
  cases turn <;> exact Iff.rfl

theorem length_flatten {frames : List Bytes}
    (whole : ∀ frame ∈ frames, (Framing.prefixed width).IsFrame frame) :
    frames.flatten.length = span width (frames.map (·.drop width.size)) := by
  induction frames with
  | nil => rfl
  | cons frame later ih =>
    have rest := ih fun other member => whole other (List.mem_cons_of_mem _ member)
    have first := (whole frame (List.mem_cons_self ..)).length_drop.2
    rw [List.flatten_cons, List.length_append, rest]
    simp only [span, List.map_cons, List.length_cons, List.flatten_cons, List.length_append,
      Nat.mul_succ]
    omega

theorem Faithful.delivered_le
    (faithful : exchange.Faithful width payloads submitted echoed received) :
    exchange.client.channel.connection.delivered.length ≤ span width payloads ∧
      exchange.server.channel.connection.delivered.length ≤ span width payloads := by
  obtain ⟨rest, whole, _⟩ := faithful.left
  have all := length_flatten faithful.frame
  have front : span width (submitted.map (·.drop width.size)) ≤ span width payloads := by
    rw [← whole, span, span, List.flatten_append, List.length_append, List.length_append,
      Nat.mul_add]
    omega
  have sent := congrArg List.length faithful.sent
  rw [List.length_append] at sent
  obtain ⟨later, same⟩ := faithful.echoed_front
  have echo := congrArg List.length (congrArg List.flatten same)
  rw [List.flatten_append, List.length_append, ← faithful.echo] at echo
  omega

/-- A turn does some of the work that is left, or it finds nothing to do and changes nothing. -/
theorem Moves.works (moves : exchange.Moves width turn after) (possible : exchange.Possible)
    (faithful : exchange.Faithful width payloads submitted echoed received) :
    after.workLeft (span width payloads) < exchange.workLeft (span width payloads) ∨
      exchange.Idle turn ∧ after.bare = exchange.bare := by
  obtain ⟨clientBound, serverBound⟩ := faithful.delivered_le
  cases moves with
  | serverVisits unfired visits =>
    obtain ⟨_, _, _, ended, _⟩ := visits.reading faithful.out.reading faithful.serves.nothing
    rcases visits.works possible.1 unfired with less | ⟨waits, channel, state⟩
    · left
      simp only [workLeft, directionLeft, ended]
      omega
    · right
      exact ⟨.inr waits, by simp only [bare, channel, state]⟩
  | clientVisits unfired visits =>
    obtain ⟨_, _, _, ended, _⟩ := visits.reading faithful.back.reading faithful.asks.nothing
    rcases visits.works possible.2 unfired with less | ⟨waits, channel, state⟩
    · left
      simp only [workLeft, directionLeft, ended]
      omega
    · right
      exact ⟨.inr waits, by simp only [bare, channel, state]⟩
  | serverGone fired => exact .inr ⟨.inl fired, rfl⟩
  | clientEnds fired =>
    cases ended : exchange.clientEnded with
    | false =>
      left
      simp [workLeft, ended]
    | true =>
      right
      refine ⟨.inl ⟨fired, ended⟩, ?_⟩
      rw [← ended]
  | carriesOut ran =>
    rcases faithful.out.carry_works ran clientBound with less | ⟨idle, channel, state, moved⟩
    · left
      simp only [workLeft]
      omega
    · right
      exact ⟨idle, by simp only [bare, channel, state, moved]⟩
  | carriesBack ran =>
    rcases faithful.back.carry_works ran serverBound with less | ⟨idle, channel, state, moved⟩
    · left
      simp only [workLeft]
      omega
    · right
      exact ⟨idle, by simp only [bare, channel, state, moved]⟩
  | submits task written live output whole =>
    left
    simp only [workLeft, directionLeft, Channel.workLeft, Channel.deliver, task, Task.workLeft,
      List.length_cons]
    omega
  | flushes task live output =>
    left
    simp only [workLeft, directionLeft, Channel.workLeft, Channel.deliver, task, Task.workLeft,
      List.length_nil]
    omega
  | fails task cause =>
    left
    simp only [workLeft, task, Task.workLeft]
    omega
  | finishes task all | notices task ended =>
    left
    simp only [workLeft, task, Task.workLeft]
    omega
  | prints task missing queue =>
    left
    have within := faithful.printed_front.length_le
    rw [← faithful.total] at within
    simp only [workLeft, List.length_append, List.length_singleton]
    omega
  | rests cause => exact .inr ⟨cause, rfl⟩
  | overlooks cause => exact .inr ⟨cause, rfl⟩

/-- A row of turns does some of the work that is left, or none of them finds anything to do. -/
theorem Faithful.row (faithful : exchange.Faithful width payloads submitted echoed received)
    (possible : exchange.Possible) (turns : List Turn) :
    (exchange.takeAll turns).workLeft (span width payloads) <
        exchange.workLeft (span width payloads) ∨
      (∀ turn ∈ turns, exchange.Idle turn) ∧
        ∀ front, front <+: turns → (exchange.takeAll front).bare = exchange.bare := by
  induction turns generalizing exchange submitted echoed received with
  | nil =>
    refine .inr ⟨by simp, fun front begins => ?_⟩
    rw [List.prefix_nil.mp begins]
    rfl
  | cons turn rest ih =>
    have moves := faithful.moves turn
    obtain ⟨_, _, _, next⟩ := moves.faithful faithful
    have level {before after : Exchange} (same : after.bare = before.bare) :
        after.workLeft (span width payloads) = before.workLeft (span width payloads) := by
      rw [← workLeft_bare, same, workLeft_bare]
    rcases moves.works possible faithful with less | ⟨idle, same⟩ <;>
      rcases ih next (moves.possible.mpr possible) with later | ⟨idles, still⟩
    · exact .inl (Nat.lt_trans later less)
    · have kept := level (still rest (List.prefix_refl rest))
      exact .inl (Nat.lt_of_le_of_lt (Nat.le_of_eq kept) less)
    · exact .inl (Nat.lt_of_lt_of_eq later (level same))
    · refine .inr ⟨List.forall_mem_cons.mpr ⟨idle, fun other member => ?_⟩, fun front begins => ?_⟩
      · rw [← idle_bare, ← same, idle_bare]
        exact idles other member
      · rcases List.prefix_cons_iff.mp begins with rfl | ⟨later, rfl, within⟩
        · rfl
        · exact (still later within).trans same

/-- Where no turn finds anything to do the sender's task is over. -/
theorem Faithful.finished_of_resting
    (faithful : exchange.Faithful width payloads submitted echoed received)
    (resting : ∀ turn, exchange.Idle turn) : ∃ result, exchange.task = .finished result := by
  rcases resting .proceed with finished | ⟨task, missing, queue⟩
  · exact finished
  exfalso
  have runs := resting .notice task
  obtain ⟨_, _, unasked, waits⟩ := (resting .clientSweep).resolve_left fun gone => by
    simp [runs] at gone
  obtain ⟨unread, more⟩ := waits.resolve_left fun full =>
    Bool.eq_false_iff.mp unasked (faithful.back.reading.asked.mpr full)
  have allBack := faithful.back.all_of_carried fun count => resting (.carryBack count)
  have allOut := faithful.out.all_of_carried fun count => resting (.carryOut count)
  obtain ⟨_, _, serverUnasked, serverWaits⟩ := (resting .serverSweep).resolve_left fun fired => by
    have closed := faithful.out.reading.fired fired
    rw [faithful.out.reading.output, Option.isNone_iff_eq_none] at closed
    have ended := (resting (.carryBack 0)).2 closed allBack
    exact Bool.eq_false_iff.mp more ended
  obtain ⟨serverUnread, _⟩ := serverWaits.resolve_left fun full =>
    Bool.eq_false_iff.mp serverUnasked (faithful.out.reading.asked.mpr full)
  have sent := faithful.sent
  rw [faithful.flushed task, List.append_nil] at sent
  obtain rfl := faithful.out.row_of_all allOut serverUnread sent faithful.frame
  obtain rfl := faithful.back.row_of_all allBack unread faithful.echo faithful.frame
  obtain ⟨rest, whole, leaves⟩ := faithful.left
  rw [task] at leaves
  obtain rfl : rest = [] := leaves
  have printed := faithful.queued
  rw [queue, List.map_nil, List.append_nil, ← List.append_nil (List.map _ _), whole] at printed
  exact missing (by rw [← printed, faithful.total])

/-- Every party has its turn in the row, and every network carries something. -/
structure Fair (row : List Turn) : Prop where
  server : .serverSweep ∈ row
  client : .clientSweep ∈ row
  out : ∃ count, 0 < count ∧ .carryOut count ∈ row
  back : ∃ count, 0 < count ∧ .carryBack count ∈ row
  proceed : .proceed ∈ row
  notice : .notice ∈ row

/-- Where some bytes could be carried and there are none, there are none at all. -/
theorem Carried.any {source target : Channel} {carried count : Nat}
    (idle : Carried source target carried count)
    (enough : 0 < count ∨ source.connection.delivered.length ≤ count) (other : Nat) :
    Carried source target carried other := by
  refine ⟨?_, idle.2⟩
  rcases List.take_eq_nil_iff.mp idle.1 with none | nothing
  · have empty : source.connection.delivered = [] := by
      apply List.length_eq_zero_iff.mp
      omega
    simp [empty]
  · rw [nothing, List.take_nil]

theorem takeAll_append (exchange : Exchange) (earlier later : List Turn) :
    exchange.takeAll (earlier ++ later) = (exchange.takeAll earlier).takeAll later :=
  List.foldl_append ..

theorem take_finished {result : Except Error Unit} (finished : exchange.task = .finished result)
    (turn : Turn) : (exchange.take turn).task = .finished result := by
  cases turn with
  | serverSweep | clientSweep =>
    simp only [take]
    split <;> exact finished
  | carryOut | carryBack => exact finished
  | proceed | notice => simp only [take, finished]

theorem takeAll_finished {result : Except Error Unit} (finished : exchange.task = .finished result)
    (turns : List Turn) : (exchange.takeAll turns).task = .finished result := by
  induction turns generalizing exchange with
  | nil => exact finished
  | cons turn rest ih => exact ih (take_finished finished turn)

/-- A fair row does some of the work that is left, unless the task is over. -/
theorem Faithful.fair_works
    (faithful : exchange.Faithful width payloads submitted echoed received)
    (possible : exchange.Possible) {row : List Turn}
    (fair : Fair row) :
    (exchange.takeAll row).workLeft (span width payloads) <
        exchange.workLeft (span width payloads) ∨
      ∃ result, exchange.task = .finished result := by
  rcases faithful.row possible row with less | ⟨idle, _⟩
  · exact .inl less
  · obtain ⟨out, someOut, mineOut⟩ := fair.out
    obtain ⟨back, someBack, mineBack⟩ := fair.back
    refine .inr (faithful.finished_of_resting fun turn => ?_)
    cases turn with
    | serverSweep => exact idle _ fair.server
    | clientSweep => exact idle _ fair.client
    | carryOut count => exact (idle _ mineOut).any (.inl someOut) count
    | carryBack count => exact (idle _ mineBack).any (.inl someBack) count
    | proceed => exact idle _ fair.proceed
    | notice => exact idle _ fair.notice

theorem finished_of_workLeft {span : Nat} (done : exchange.workLeft span = 0) :
    ∃ result, exchange.task = .finished result := by
  cases task : exchange.task with
  | finished result => exact ⟨result, rfl⟩
  | submitting | waiting =>
    simp only [workLeft, task, Task.workLeft] at done
    omega

theorem Faithful.completes
    (faithful : exchange.Faithful width payloads submitted echoed received)
    (possible : exchange.Possible) {rows : List (List Turn)} (fair : ∀ row ∈ rows, Fair row)
    (enough : exchange.workLeft (span width payloads) ≤ rows.length) :
    ∃ result, (exchange.takeAll rows.flatten).task = .finished result := by
  induction rows generalizing exchange submitted echoed received with
  | nil => exact finished_of_workLeft (Nat.le_zero.mp enough)
  | cons row rest ih =>
    rw [List.flatten_cons, takeAll_append]
    rcases faithful.fair_works possible (fair row (List.mem_cons_self ..)) with
      less | ⟨result, finished⟩
    · obtain ⟨_, _, _, next⟩ := faithful.takeAll row
      refine ih next ((faithful.possible_takeAll row).mpr possible)
        (fun other member => fair other (List.mem_cons_of_mem _ member)) ?_
      rw [List.length_cons] at enough
      omega
    · exact ⟨result, takeAll_finished (takeAll_finished finished row) rest.flatten⟩

/-- The bound on the rounds bounds the work of a conversation. -/
theorem workLeft_start (width : LengthWidth) (server : Service Unit)
    (client : Service (List Bytes)) (payloads : List Bytes) :
    (start width.size server client payloads).workLeft (span width payloads) ≤ bound payloads := by
  have size : width.size ≤ 4 := by cases width <;> decide
  have bounded : 4 * span width payloads + 2 * payloads.length + 9 ≤ bound payloads := by
    induction payloads with
    | nil => simp [span, bound]
    | cons payload rest ih =>
      simp only [span, bound, List.flatten_cons, List.length_append, List.foldr_cons,
        List.length_cons, Nat.mul_succ] at ih ⊢
      omega
  simp only [workLeft, start, directionLeft, Channel.workLeft, Service.session, Task.workLeft,
    List.length_nil, Nat.sub_zero, Bool.not_false, Bool.toNat_true, Nat.zero_add]
  omega

/-! ### Rounds -/

/-- A round is a row of turns. The carries in it carry everything that is there, and the last turn
is left out as long as the sender's task is not to notice anything. -/
theorem round_turns (exchange : Exchange) : ∃ out back last,
    exchange.round = exchange.takeAll ([.proceed, .clientSweep, .carryOut out, .serverSweep,
      .carryBack back, .clientSweep] ++ last) ∧
    out = (exchange.takeAll
      [.proceed, .clientSweep]).client.channel.connection.delivered.length ∧
    back = (exchange.takeAll [.proceed, .clientSweep, .carryOut out,
      .serverSweep]).server.channel.connection.delivered.length ∧
    (last = [.notice] ∨
      last = [] ∧ (exchange.round.clientEnded && exchange.round.client.state.isEmpty) = false) := by
  unfold round
  extract_lets out carried swept back after
  split
  · exact ⟨_, _, [.notice], rfl, rfl, rfl, .inl rfl⟩
  · rename_i unnoticed
    exact ⟨_, _, [], rfl, rfl, rfl, .inr ⟨rfl, Bool.eq_false_iff.mpr unnoticed⟩⟩

/-- So are rounds, as many as it takes. -/
theorem rounds_turns (count : Nat) (exchange : Exchange) :
    ∃ turns, exchange.rounds count = exchange.takeAll turns := by
  induction count generalizing exchange with
  | zero => exact ⟨[], rfl⟩
  | succ count ih =>
    cases task : exchange.task with
    | finished result =>
      refine ⟨[], ?_⟩
      simp only [rounds, task]
      rfl
    | submitting | waiting =>
      obtain ⟨out, back, last, ran, _⟩ := exchange.round_turns
      obtain ⟨rest, same⟩ := ih exchange.round
      simp only [rounds, task]
      rw [same, ran, ← takeAll_append]
      exact ⟨_, rfl⟩

theorem Faithful.round_works
    (faithful : exchange.Faithful width payloads submitted echoed received)
    (possible : exchange.Possible) :
    exchange.round.workLeft (span width payloads) < exchange.workLeft (span width payloads) ∨
      ∃ result, exchange.task = .finished result := by
  obtain ⟨out, back, last, ran, counted, countedBack, end'⟩ := exchange.round_turns
  rcases faithful.row possible ([.proceed, .clientSweep, .carryOut out, .serverSweep, .carryBack back,
      .clientSweep] ++ last) with less | ⟨idle, same⟩
  · rw [← ran] at less
    exact .inl less
  · have carriedOut := congrArg (·.client.channel.connection.delivered.length)
      (same [.proceed, .clientSweep] ⟨_, rfl⟩)
    have carriedBack := congrArg (·.server.channel.connection.delivered.length)
      (same [.proceed, .clientSweep, .carryOut out, .serverSweep] ⟨_, rfl⟩)
    have after := same _ (List.prefix_refl _)
    rw [← ran] at after
    refine .inr (faithful.finished_of_resting fun turn => ?_)
    cases turn with
    | serverSweep | clientSweep | proceed => exact idle _ (by simp)
    | carryOut count =>
      exact (idle (.carryOut out) (by simp)).any
        (.inr (Nat.le_of_eq (counted.trans carriedOut).symm)) count
    | carryBack count =>
      exact (idle (.carryBack back) (by simp)).any
        (.inr (Nat.le_of_eq (countedBack.trans carriedBack).symm)) count
    | notice =>
      rcases end' with rfl | ⟨rfl, unnoticed⟩
      · exact idle _ (by simp)
      · intro task
        obtain ⟨_, _, queue⟩ := (idle .proceed (by simp)).resolve_left (by simp [task])
        have ended : exchange.round.clientEnded = exchange.clientEnded :=
          congrArg (·.clientEnded) after
        have state : exchange.round.client.state = exchange.client.state :=
          congrArg (·.client.state) after
        simpa [ended, state, queue] using unnoticed

theorem Faithful.rounds_finished
    (faithful : exchange.Faithful width payloads submitted echoed received)
    (possible : exchange.Possible) {count : Nat}
    (enough : exchange.workLeft (span width payloads) ≤ count) :
    ∃ result, (exchange.rounds count).task = .finished result := by
  induction count generalizing exchange submitted echoed received with
  | zero => exact finished_of_workLeft (Nat.le_zero.mp enough)
  | succ count ih =>
    cases task : exchange.task with
    | finished result =>
      refine ⟨result, ?_⟩
      simp only [rounds, task]
    | submitting | waiting =>
      have less := (faithful.round_works possible).resolve_right (by simp [task])
      obtain ⟨out, back, last, ran, _⟩ := exchange.round_turns
      obtain ⟨_, _, _, next⟩ := faithful.takeAll _
      rw [← ran] at next
      have still : exchange.round.Possible := by
        rw [ran]
        exact (faithful.possible_takeAll _).mpr possible
      simp only [rounds, task]
      exact ih next still (by omega)

end Exchange

end StreamDispatch.Echo
