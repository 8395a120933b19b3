import StreamDispatch.Hub
import StreamDispatch.Proofs.Callbacks

/-! The population of a dispatch loop. Sessions enter it one by one, live in it each for itself, and
leave it when a sweep finds them done or when all are dropped; none is ever lost from sight. -/
namespace StreamDispatch

variable {σ : Type}

/-! ### Sets of channels -/

namespace ChannelSet

variable {α : Type} {set : ChannelSet α} {id : Nat}

@[simp] theorem ids_update (set : ChannelSet α) (id : Nat) (change : α → α) :
    (set.update id change).ids = set.ids := by
  simp only [ids, update, List.map_map]
  refine List.map_congr_left fun member _ => ?_
  simp only [Function.comp_apply]
  split
  · rename_i same
    exact same.symm
  · rfl

theorem ids_remove (set : ChannelSet α) (id : Nat) :
    (set.remove id).ids = set.ids.filter (· != id) := by
  simp only [ids, remove, List.filter_map]
  rfl

theorem ids_insert (set : ChannelSet α) (id : Nat) (channel : α) :
    (set.insert id channel).ids = set.ids.filter (· != id) ++ [id] := by
  rw [← ids_remove]
  simp [ids, insert]

theorem mem_update {change : α → α} {member : Nat × α}
    (found : member ∈ (set.update id change).members) :
    ∃ old, (member.1, old) ∈ set.members ∧
      (member.1 = id ∧ member.2 = change old ∨ member.1 ≠ id ∧ member.2 = old) := by
  obtain ⟨⟨key, old⟩, present, same⟩ := List.mem_map.mp found
  simp only at same
  split at same
  · rename_i mine
    subst same
    exact ⟨old, mine ▸ present, .inl ⟨rfl, rfl⟩⟩
  · rename_i other
    subst same
    exact ⟨old, present, .inr ⟨other, rfl⟩⟩

theorem mem_remove {member : Nat × α} :
    member ∈ (set.remove id).members ↔ member ∈ set.members ∧ member.1 ≠ id := by
  simp [remove, bne_iff_ne]

theorem mem_insert {channel : α} {member : Nat × α}
    (found : member ∈ (set.insert id channel).members) :
    member ∈ set.members ∨ member = (id, channel) := by
  rcases List.mem_append.mp found with old | fresh
  · exact .inl (mem_remove.mp old).1
  · exact .inr (List.mem_singleton.mp fresh)

theorem nodup_remove (distinct : set.ids.Nodup) (id : Nat) : (set.remove id).ids.Nodup := by
  rw [ids_remove]
  exact distinct.filter _

theorem nodup_insert (distinct : set.ids.Nodup) (id : Nat) (channel : α) :
    (set.insert id channel).ids.Nodup := by
  rw [ids_insert, List.nodup_append]
  refine ⟨distinct.filter _, by simp, ?_⟩
  intro old member fresh same
  obtain rfl := List.mem_singleton.mp same
  simpa using (List.mem_filter.mp member).2

theorem find?_mem {channel : α} (found : set.find? id = some channel) :
    (id, channel) ∈ set.members := by
  obtain ⟨earlier, later, split, _⟩ := List.lookup_eq_some_iff.mp found
  simp [split]

theorem find?_none (missing : set.find? id = none) : id ∉ set.ids := by
  unfold find? at missing
  intro member
  obtain ⟨⟨key, channel⟩, present, rfl⟩ := List.mem_map.mp member
  have := List.lookup_eq_none_iff.mp missing _ present
  simp at this

end ChannelSet

/-! ### Runs of a dispatch loop -/

namespace Hub

/-- What can happen to a dispatch loop. -/
inductive Step where
  /-- A connection is accepted; none is once accepting is over. -/
  | enroll
  /-- A connection is accepted that cannot be set up. -/
  | spend
  | arrive (id : Nat) (bytes : Bytes)
  | peerEnds (id : Nat)
  | breaks (id : Nat)
  | act (id : Nat) (action : Action)
  | sweep (order : List Nat)
  | closing
  | acceptDone
  | forceClose
  deriving DecidableEq, Repr

def step (service : Service σ) (hub : Hub σ) : Step → Hub σ
  | .enroll => if hub.signals.acceptDone then hub else (hub.enroll service).2
  | .spend => if hub.signals.acceptDone then hub else hub.spend
  | .arrive id bytes => hub.touch id (·.step service (.arrive bytes))
  | .peerEnds id => hub.touch id (·.step service .peerEnds)
  | .breaks id => hub.touch id (·.step service .breaks)
  | .act id action => hub.touch id (·.step service (.act action))
  | .sweep order => hub.sweep service order
  | .closing => { hub with signals := { hub.signals with closing := true } }
  | .acceptDone => { hub with signals := { hub.signals with acceptDone := true } }
  | .forceClose => hub.forceClose

def run (service : Service σ) (steps : List Step) (hub : Hub σ) : Hub σ :=
  steps.foldl (step service) hub

@[simp] theorem run_append (service : Service σ) (earlier later : List Step) (hub : Hub σ) :
    hub.run service (earlier ++ later) = (hub.run service earlier).run service later := by
  simp [run]

/-- The ids of all sessions that ever entered. -/
def known (hub : Hub σ) : List Nat := hub.departed.map (·.channel.id) ++ hub.live.ids

theorem enroll_cases (service : Service σ) (hub : Hub σ) :
    hub.signals.terminated = true ∧
        (hub.enroll service).2 = { hub with
          live := hub.live.issue.2
          departed := hub.departed ++
            [(service.session hub.live.nextId).updateChannel Channel.closeNow] } ∨
      hub.signals.terminated = false ∧
        (hub.enroll service).2 = { hub with
          live := hub.live.issue.2.insert hub.live.nextId (service.session hub.live.nextId) } := by
  unfold enroll
  by_cases ended : hub.signals.terminated
  · exact .inl ⟨ended, by simp [ended, ChannelSet.issue]⟩
  · exact .inr ⟨by simpa using ended, by simp [ended, ChannelSet.issue]⟩

/-- What a visit does: nothing, or letting the session go, or working on it. -/
theorem visit_cases (service : Service σ) (closing : Bool) (hub : Hub σ) (id : Nat) :
    hub.visit service closing id = hub ∧ id ∉ hub.live.ids ∨
      ∃ session, (id, session) ∈ hub.live.members ∧
        (session.channel.closeFired = true ∧
            hub.visit service closing id =
              { hub with live := hub.live.remove id, departed := hub.departed ++ [session] } ∨
          session.channel.closeFired = false ∧
            hub.visit service closing id = { hub with
              live := hub.live.update id fun _ => session.step service (.visit closing) }) := by
  unfold Hub.visit
  cases found : hub.live.find? id with
  | none => exact .inl ⟨rfl, ChannelSet.find?_none found⟩
  | some session =>
    refine .inr ⟨session, ChannelSet.find?_mem found, ?_⟩
    cases fired : session.channel.closeFired with
    | true => exact .inl ⟨rfl, by simp [Session.visit, fired]⟩
    | false =>
      refine .inr ⟨rfl, ?_⟩
      cases closing <;> simp [Session.visit, Session.step, fired]

/-- Whoever lives after something happened to one session lived before, and at most stepped. -/
theorem mem_touch {service : Service σ} {hub : Hub σ} {id : Nat} {step : Session.Step}
    {member : Nat × Session σ}
    (found : member ∈ (hub.touch id (·.step service step)).live.members) :
    ∃ session, (member.1, session) ∈ hub.live.members ∧
      (member.2 = session.step service step ∨ member.2 = session) := by
  obtain ⟨old, present, ⟨_, same⟩ | ⟨_, same⟩⟩ := ChannelSet.mem_update found
  · exact ⟨old, present, .inl same⟩
  · exact ⟨old, present, .inr same⟩

theorem mem_visit {service : Service σ} {closing : Bool} {hub : Hub σ} {id : Nat}
    {member : Nat × Session σ} (found : member ∈ (hub.visit service closing id).live.members) :
    ∃ session, (member.1, session) ∈ hub.live.members ∧
      (member.2 = session.step service (.visit closing) ∨ member.2 = session) := by
  rcases hub.visit_cases service closing id with
    ⟨same, _⟩ | ⟨session, present, ⟨_, same⟩ | ⟨_, same⟩⟩ <;> rw [same] at found
  · exact ⟨member.2, found, .inr rfl⟩
  · exact ⟨member.2, (ChannelSet.mem_remove.mp found).1, .inr rfl⟩
  · obtain ⟨old, kept, ⟨mine, same⟩ | ⟨_, same⟩⟩ := ChannelSet.mem_update found
    · exact ⟨session, mine ▸ present, .inl same⟩
    · exact ⟨old, kept, .inr same⟩

theorem visit_signals (service : Service σ) (closing : Bool) (hub : Hub σ) (id : Nat) :
    (hub.visit service closing id).signals = hub.signals := by
  rcases hub.visit_cases service closing id with ⟨same, _⟩ | ⟨_, _, ⟨_, same⟩ | ⟨_, same⟩⟩ <;>
    rw [same]

def visits (service : Service σ) (closing : Bool) (order : List Nat) (hub : Hub σ) : Hub σ :=
  order.foldl (Hub.visit service closing) hub

theorem visits_signals (service : Service σ) (closing : Bool) (order : List Nat) (hub : Hub σ) :
    (hub.visits service closing order).signals = hub.signals := by
  induction order generalizing hub with
  | nil => rfl
  | cons id rest ih => exact (ih _).trans (hub.visit_signals service closing id)

theorem visits_keep (service : Service σ) (holds : Hub σ → Prop) (closing : Bool)
    (visited : ∀ hub id, hub.signals.terminated = false → holds hub →
      holds (hub.visit service closing id))
    (order : List Nat) (hub : Hub σ) (running : hub.signals.terminated = false)
    (start : holds hub) : holds (hub.visits service closing order) := by
  induction order generalizing hub with
  | nil => exact start
  | cons id rest ih =>
    exact ih _ (by rw [visit_signals, running]) (visited hub id running start)

theorem sweep_cases (service : Service σ) (order : List Nat) (hub : Hub σ) :
    hub.signals.terminated = true ∧ hub.sweep service order = hub ∨
      hub.signals.terminated = false ∧
        let swept := hub.visits service hub.signals.closing order
        (hub.signals.acceptDone = true ∧ swept.live.members = [] ∧
            hub.sweep service order =
              { swept with signals := { hub.signals with terminated := true } } ∨
          ¬ (hub.signals.acceptDone = true ∧ swept.live.members = []) ∧
            hub.sweep service order = swept) := by
  have signals := hub.visits_signals service hub.signals.closing order
  unfold sweep visits at *
  by_cases ended : hub.signals.terminated
  · exact .inl ⟨ended, if_pos ended⟩
  · refine .inr ⟨by simpa using ended, ?_⟩
    rw [if_neg ended]
    simp only [signals, Bool.and_eq_true, ChannelSet.isEmpty, List.isEmpty_iff]
    split
    · rename_i finished
      exact .inl ⟨finished.1, finished.2, rfl⟩
    · rename_i more
      exact .inr ⟨more, rfl⟩

/-- What enrolling, spending, outside steps, visits, signals and dropping everything keep, all runs
keep. -/
theorem run_keeps (service : Service σ) (holds : Hub σ → Prop)
    (steps : List Step)
    (enrolled : .enroll ∈ steps → ∀ hub, hub.signals.acceptDone = false → holds hub →
      holds (hub.enroll service).2)
    (spent : .spend ∈ steps → ∀ hub, hub.signals.acceptDone = false → holds hub → holds hub.spend)
    (touched : ∀ hub id (step : Session.Step), (∀ closing, step ≠ .visit closing) → holds hub →
      holds (hub.touch id (·.step service step)))
    (visited : ∀ hub closing id, hub.signals.terminated = false → holds hub →
      holds (hub.visit service closing id))
    (signalled : ∀ hub signals,
      (hub.signals.closing = true → signals.closing = true) →
      (hub.signals.acceptDone = true → signals.acceptDone = true) →
      (signals.terminated = true → hub.signals.terminated = true ∨
        hub.signals.acceptDone = true ∧ hub.live.members = []) →
      holds hub → holds { hub with signals })
    (forced : .forceClose ∈ steps → ∀ hub, holds hub → holds hub.forceClose)
    (hub : Hub σ) (start : holds hub) : holds (hub.run service steps) := by
  induction steps generalizing hub with
  | nil => exact start
  | cons first rest ih =>
    refine ih (fun member => enrolled (List.mem_cons_of_mem _ member))
      (fun member => spent (List.mem_cons_of_mem _ member))
      (fun member => forced (List.mem_cons_of_mem _ member)) _ ?_
    cases first with
    | enroll =>
      rw [step]
      split
      · exact start
      · rename_i more
        exact enrolled (List.mem_cons_self ..) hub (by simpa using more) start
    | spend =>
      rw [step]
      split
      · exact start
      · rename_i more
        exact spent (List.mem_cons_self ..) hub (by simpa using more) start
    | arrive id bytes => exact touched hub id _ (by simp) start
    | peerEnds id => exact touched hub id _ (by simp) start
    | breaks id => exact touched hub id _ (by simp) start
    | act id action => exact touched hub id _ (by simp) start
    | closing =>
      exact signalled hub _ (fun _ => rfl) (fun late => late) (fun ended => .inl ended) start
    | acceptDone =>
      exact signalled hub _ (fun asked => asked) (fun _ => rfl) (fun ended => .inl ended) start
    | forceClose => exact forced (List.mem_cons_self ..) hub start
    | sweep order =>
      rw [step]
      rcases hub.sweep_cases service order with ⟨_, same⟩ | ⟨running, news⟩
      · rw [same]
        exact start
      · have swept := visits_keep service holds hub.signals.closing
          (fun next id => visited next _ id) order hub running start
        rcases news with ⟨accepted, none, same⟩ | ⟨_, same⟩ <;> rw [same]
        · have signals := hub.visits_signals service hub.signals.closing order
          refine signalled _ _ (fun asked => ?_) (fun _ => accepted) (fun _ => .inr ⟨?_, none⟩)
            swept
          · rwa [signals] at asked
          · rw [signals]
            exact accepted
        · exact swept

/-! ### Who lives in a loop -/

/-- Every live session stands under the id of its own channel. -/
def Keyed (hub : Hub σ) : Prop := ∀ member ∈ hub.live.members, member.2.channel.id = member.1

/-- The sessions of a loop have lives, and the live ones stand under their own ids. -/
structure Sound (service : Service σ) (hub : Hub σ) : Prop where
  lived : ∀ session ∈ hub.departed, session.Lived service
  housed : ∀ member ∈ hub.live.members,
    member.2.Lived service ∧ member.2.channel.id = member.1
  distinct : hub.live.ids.Nodup

end Hub

namespace Session

variable {service : Service σ} {session : Session σ}

theorem Lived.step (lived : session.Lived service) (step : Step) :
    (session.step service step).Lived service := by
  obtain ⟨id, steps, rfl⟩ := lived
  exact ⟨id, steps ++ [step], (live_snoc ..).symm⟩

theorem Lived.fresh (service : Service σ) (id : Nat) : (service.session id).Lived service :=
  ⟨id, [], rfl⟩

theorem closeNow_id (session : Session σ) :
    (session.updateChannel Channel.closeNow).channel.id = session.channel.id :=
  session.channel.closeNow_sameInward.steady.id

theorem step_fired (session : Session σ) (step : Step) (fired : session.channel.closeFired = true) :
    (session.step service step).channel.closeFired = true := by
  apply step_keeps (fun session => session.channel.closeFired = true)
  · intro session bytes more fired
    rw [record, updateChannel, Channel.arrive_of_open more]
    exact fired
  · exact fun _ fired => fired
  · exact fun _ fired => fired
  · intro session action fired
    exact (session.perform_handled action).sameInward.closeFired.trans fired
  · exact fun _ fired => fired
  · intro session unfired _ fired
    simp [fired] at unfired
  · exact fired

theorem step_id (session : Session σ) (step : Step) :
    (session.step service step).channel.id = session.channel.id := by
  apply step_keeps (fun after => after.channel.id = session.channel.id)
  · intro after bytes more same
    rw [record, updateChannel, Channel.arrive_of_open more]
    exact same
  · exact fun _ same => same
  · exact fun _ same => same
  · intro after action same
    exact (after.perform_handled action).sameInward.steady.id.trans same
  · exact fun _ same => same
  · intro after _ _ same
    obtain ⟨final, ⟨course, ran⟩ | ⟨course, ran⟩⟩ := after.work_course service <;> rw [ran] <;>
      exact course.steady.id.trans same
  · rfl

end Session

namespace Hub.Sound

variable {service : Service σ} {hub : Hub σ}

theorem keyed (sound : hub.Sound service) : hub.Keyed :=
  fun member found => (sound.housed member found).2

theorem enroll (sound : hub.Sound service) : (hub.enroll service).2.Sound service := by
  rcases hub.enroll_cases service with ⟨_, same⟩ | ⟨_, same⟩ <;> rw [same]
  · exact
      { sound with
        lived := by
          intro session member
          rcases List.mem_append.mp member with old | fresh
          · exact sound.lived session old
          · obtain rfl := List.mem_singleton.mp fresh
            exact (Session.Lived.fresh ..).step (.act .closeNow) }
  · exact
      { sound with
        housed := by
          intro member found
          rcases ChannelSet.mem_insert found with old | rfl
          · exact sound.housed member old
          · exact ⟨.fresh .., rfl⟩
        distinct := ChannelSet.nodup_insert sound.distinct .. }

private theorem housed_step {session after : Session σ} {id : Nat} {step : Session.Step}
    (housed : session.Lived service ∧ session.channel.id = id)
    (stepped : after = session.step service step ∨ after = session) :
    after.Lived service ∧ after.channel.id = id := by
  obtain ⟨lived, keyed⟩ := housed
  rcases stepped with rfl | rfl
  · exact ⟨lived.step step, (session.step_id step).trans keyed⟩
  · exact ⟨lived, keyed⟩

theorem touch (sound : hub.Sound service) (id : Nat) (step : Session.Step) :
    (hub.touch id (·.step service step)).Sound service where
  lived := by
    intro session member
    obtain ⟨old, present, rfl⟩ := List.mem_map.mp member
    split
    · exact (sound.lived old present).step step
    · exact sound.lived old present
  housed := by
    intro member found
    obtain ⟨session, present, stepped⟩ := mem_touch found
    have before := sound.housed (member.1, session) present
    exact housed_step before stepped
  distinct := by
    rw [Hub.touch, ChannelSet.ids_update]
    exact sound.distinct

theorem visit (sound : hub.Sound service) (closing : Bool) (id : Nat) :
    (hub.visit service closing id).Sound service where
  lived := by
    rcases hub.visit_cases service closing id with
      ⟨same, _⟩ | ⟨session, found, ⟨_, same⟩ | ⟨_, same⟩⟩ <;> rw [same]
    · exact sound.lived
    · intro other member
      rcases List.mem_append.mp member with old | last
      · exact sound.lived other old
      · obtain rfl := List.mem_singleton.mp last
        exact (sound.housed _ found).1
    · exact sound.lived
  housed := by
    intro member found
    obtain ⟨session, present, stepped⟩ := mem_visit found
    have before := sound.housed (member.1, session) present
    exact housed_step before stepped
  distinct := by
    rcases hub.visit_cases service closing id with
      ⟨same, _⟩ | ⟨session, found, ⟨_, same⟩ | ⟨_, same⟩⟩ <;> rw [same]
    · exact sound.distinct
    · exact ChannelSet.nodup_remove sound.distinct id
    · rw [ChannelSet.ids_update]
      exact sound.distinct

theorem forceClose (sound : hub.Sound service) : hub.forceClose.Sound service where
  lived := by
    intro session member
    rcases List.mem_append.mp member with old | dropped
    · exact sound.lived session old
    · obtain ⟨live, present, rfl⟩ := List.mem_map.mp dropped
      obtain ⟨⟨key, _⟩, found, rfl⟩ := List.mem_map.mp present
      exact (sound.housed _ found).1.step (.act .closeNow)
  housed := fun member found => by simp [Hub.forceClose, ChannelSet.clear] at found
  distinct := List.nodup_nil

theorem run (service : Service σ) (steps : List Step) :
    (Hub.run service steps {}).Sound service := by
  apply run_keeps service (Hub.Sound service)
  · exact fun _ hub _ sound => sound.enroll
  · exact fun _ hub _ sound => { sound with }
  · exact fun hub id step _ sound => sound.touch id step
  · exact fun hub closing id _ sound => sound.visit closing id
  · exact fun hub signals _ _ _ sound => { sound with }
  · exact fun _ hub sound => sound.forceClose
  · exact ⟨by simp, by simp, List.nodup_nil⟩

end Hub.Sound

namespace Hub

variable {service : Service σ} {hub : Hub σ}

/-! ### Who is known to a loop -/

theorem known_touch (hub : Hub σ) (id : Nat) {change : Session σ → Session σ}
    (keeps : ∀ session, (change session).channel.id = session.channel.id) :
    (hub.touch id change).known = hub.known := by
  have same : (hub.departed.map fun session =>
      if session.channel.id = id then change session else session).map (·.channel.id) =
        hub.departed.map (·.channel.id) := by
    rw [List.map_map]
    refine List.map_congr_left fun session _ => ?_
    simp only [Function.comp_apply]
    split
    · exact keeps session
    · rfl
  rw [known, known, touch, ChannelSet.ids_update, same]

theorem known_enroll (hub : Hub σ) (service : Service σ) :
    (hub.enroll service).2.known =
        hub.departed.map (·.channel.id) ++ [hub.live.nextId] ++ hub.live.ids ∨
      (hub.enroll service).2.known =
        hub.departed.map (·.channel.id) ++ hub.live.ids.filter (· != hub.live.nextId) ++
          [hub.live.nextId] := by
  rcases hub.enroll_cases service with ⟨_, same⟩ | ⟨_, same⟩ <;> rw [same]
  · refine .inl ?_
    simp only [known, List.map_append, List.map_cons, List.map_nil, ChannelSet.ids]
    rw [Session.closeNow_id]
    rfl
  · refine .inr ?_
    simp only [known, ChannelSet.ids_insert, List.append_assoc]
    rfl

theorem known_visit (keyed : hub.Keyed) (service : Service σ) (closing : Bool) (id : Nat) :
    (hub.visit service closing id).known = hub.known ∨
      id ∈ hub.live.ids ∧ (hub.visit service closing id).known =
        hub.departed.map (·.channel.id) ++ [id] ++ hub.live.ids.filter (· != id) := by
  rcases hub.visit_cases service closing id with
    ⟨same, _⟩ | ⟨session, found, ⟨_, same⟩ | ⟨_, same⟩⟩ <;> rw [same]
  · exact .inl rfl
  · refine .inr ⟨List.mem_map.mpr ⟨_, found, rfl⟩, ?_⟩
    simp only [known, ChannelSet.ids_remove, List.map_append, List.map_cons, List.map_nil]
    rw [keyed _ found]
  · refine .inl ?_
    simp only [known, ChannelSet.ids_update]

theorem known_forceClose (keyed : hub.Keyed) : hub.forceClose.known = hub.known := by
  have dropped : (hub.live.channels.map (·.updateChannel Channel.closeNow)).map (·.channel.id) =
      hub.live.ids := by
    rw [ChannelSet.channels, ChannelSet.ids, List.map_map, List.map_map]
    refine List.map_congr_left fun member found => ?_
    simp only [Function.comp_apply]
    exact member.2.closeNow_id.trans (keyed member found)
  simp [known, forceClose, dropped, ChannelSet.clear, ChannelSet.ids]

theorem mem_known_enroll {id : Nat} (member : id ∈ hub.known) (service : Service σ) :
    id ∈ (hub.enroll service).2.known := by
  rcases known_enroll hub service with same | same <;> rw [same] <;>
    simp only [known, List.mem_append] at member ⊢
  · exact member.imp_left .inl
  · by_cases fresh : id = hub.live.nextId
    · simp [fresh]
    · exact .inl (member.imp_right fun live => List.mem_filter.mpr ⟨live, by simpa using fresh⟩)

theorem mem_known_visit (keyed : hub.Keyed) {id : Nat} (member : id ∈ hub.known)
    (service : Service σ) (closing : Bool) (visited : Nat) :
    id ∈ (hub.visit service closing visited).known := by
  rcases known_visit keyed service closing visited with same | ⟨_, same⟩ <;> rw [same]
  · exact member
  · simp only [known, List.mem_append] at member ⊢
    by_cases mine : id = visited
    · simp [mine]
    · rcases member with old | live
      · exact .inl (.inl old)
      · exact .inr (List.mem_filter.mpr ⟨live, by simpa using mine⟩)

/-- Whoever is known stays known, whatever happens. -/
theorem known_run (sound : hub.Sound service) {id : Nat} (member : id ∈ hub.known)
    (steps : List Step) : id ∈ (hub.run service steps).known := by
  refine (run_keeps service (fun hub => hub.Sound service ∧ id ∈ hub.known) steps ?_ ?_ ?_ ?_ ?_ ?_
    hub ⟨sound, member⟩).2
  · exact fun _ hub _ ⟨sound, member⟩ => ⟨sound.enroll, mem_known_enroll member service⟩
  · exact fun _ hub _ ⟨sound, member⟩ => ⟨{ sound with }, member⟩
  · intro hub other step _ ⟨sound, member⟩
    exact ⟨sound.touch other step, known_touch hub other (·.step_id step) ▸ member⟩
  · intro hub closing other _ ⟨sound, member⟩
    exact ⟨sound.visit closing other, mem_known_visit sound.keyed member service closing other⟩
  · exact fun hub signals _ _ _ ⟨sound, member⟩ => ⟨{ sound with }, member⟩
  · exact fun _ hub ⟨sound, member⟩ => ⟨sound.forceClose, known_forceClose sound.keyed ▸ member⟩

/-! ### What the signals say -/

/-- Once its loop has ended nobody lives in it. -/
theorem live_of_terminated (service : Service σ) (steps : List Step)
    (finished : (Hub.run service steps {}).signals.terminated = true) :
    (Hub.run service steps {}).live.members = [] := by
  refine run_keeps service (fun hub => hub.signals.terminated = true → hub.live.members = []) steps
    ?_ ?_ ?_ ?_ ?_ ?_ {} (by simp) finished
  · intro _ hub _ empty finished
    rcases hub.enroll_cases service with ⟨ended, same⟩ | ⟨running, same⟩ <;> rw [same] at finished ⊢
    · exact empty ended
    · simp [running] at finished
  · exact fun _ _ _ empty finished => empty finished
  · intro hub id step _ empty finished
    simp [touch, ChannelSet.update, empty finished]
  · intro hub closing id running _ finished
    simp [visit_signals, running] at finished
  · intro hub signals _ _ ended empty finished
    rcases ended finished with before | ⟨_, none⟩
    · exact empty before
    · exact none
  · exact fun _ _ _ _ => rfl

/-- Unless they are dropped, sessions are only let go once their close callback is done, and the
loop only ends once accepting is over. -/
theorem fired_of_unforced (service : Service σ) {steps : List Step}
    (unforced : .forceClose ∉ steps) :
    ∀ session ∈ (Hub.run service steps {}).departed, session.channel.closeFired = true := by
  refine (run_keeps service (fun hub =>
    (hub.signals.terminated = true → hub.signals.acceptDone = true) ∧
      ∀ session ∈ hub.departed, session.channel.closeFired = true) steps
    ?_ ?_ ?_ ?_ ?_ ?_ {} ⟨by simp, by simp⟩).2
  · intro _ hub more ⟨ends, fired⟩
    rcases hub.enroll_cases service with ⟨ended, same⟩ | ⟨_, same⟩ <;> rw [same]
    · simp [ends ended] at more
    · exact ⟨ends, fired⟩
  · exact fun _ _ _ kept => kept
  · intro hub id step _ ⟨ends, fired⟩
    refine ⟨ends, fun session member => ?_⟩
    obtain ⟨old, present, rfl⟩ := List.mem_map.mp member
    split
    · exact old.step_fired step (fired old present)
    · exact fired old present
  · intro hub closing id _ ⟨ends, fired⟩
    rcases hub.visit_cases service closing id with
      ⟨same, _⟩ | ⟨session, _, ⟨done, same⟩ | ⟨_, same⟩⟩ <;> rw [same]
    · exact ⟨ends, fired⟩
    · refine ⟨ends, fun other member => ?_⟩
      rcases List.mem_append.mp member with old | last
      · exact fired other old
      · obtain rfl := List.mem_singleton.mp last
        exact done
    · exact ⟨ends, fired⟩
  · intro hub signals _ accepted ended ⟨ends, fired⟩
    refine ⟨fun finished => ?_, fired⟩
    rcases ended finished with before | ⟨done, _⟩
    · exact accepted (ends before)
    · exact accepted done
  · exact fun forced => absurd forced unforced

/-! ### Ids -/

def Step.issues : Step → Bool
  | .enroll | .spend => true
  | _ => false

/-- So many ids were handed out, and sessions have ids of their own. -/
structure Numbered (service : Service σ) (count : Nat) (hub : Hub σ) : Prop where
  sound : hub.Sound service
  distinct : hub.known.Nodup
  below : ∀ id ∈ hub.known, id < count
  next : hub.live.nextId = count % Word.bound

namespace Numbered

variable {count : Nat}

theorem enroll (numbered : hub.Numbered service count) (fits : count < Word.bound) :
    (hub.enroll service).2.Numbered service (count + 1) := by
  have next : hub.live.nextId = count := numbered.next.trans (Nat.mod_eq_of_lt fits)
  have fresh : hub.live.nextId ∉ hub.known := by
    intro member
    have := numbered.below _ member
    omega
  have live : hub.live.ids.filter (· != hub.live.nextId) = hub.live.ids := by
    refine List.filter_eq_self.mpr fun id member => ?_
    have other : id ≠ hub.live.nextId := by
      rintro rfl
      exact fresh (List.mem_append_right _ member)
    simpa using other
  have perm : (hub.enroll service).2.known.Perm (hub.live.nextId :: hub.known) := by
    rcases known_enroll hub service with same | same <;> rw [same]
    · rw [List.append_assoc]
      exact List.perm_middle
    · rw [live]
      exact List.perm_append_singleton ..
  refine ⟨numbered.sound.enroll, ?_, ?_, ?_⟩
  · exact perm.nodup_iff.mpr (List.nodup_cons.mpr ⟨fresh, numbered.distinct⟩)
  · intro id member
    rcases List.mem_cons.mp (perm.mem_iff.mp member) with rfl | old
    · omega
    · exact Nat.lt_succ_of_lt (numbered.below id old)
  · have issued : hub.live.issue.2.nextId = (count + 1) % Word.bound := by
      rw [ChannelSet.issue, next]
    rcases hub.enroll_cases service with ⟨_, same⟩ | ⟨_, same⟩ <;> rw [same] <;> exact issued

theorem spend (numbered : hub.Numbered service count) (fits : count < Word.bound) :
    hub.spend.Numbered service (count + 1) where
  sound := { numbered.sound with }
  distinct := numbered.distinct
  below := fun id member => Nat.lt_succ_of_lt (numbered.below id member)
  next := by
    have next : hub.live.nextId = count := numbered.next.trans (Nat.mod_eq_of_lt fits)
    rw [Hub.spend, ChannelSet.issue, next]

theorem visit (numbered : hub.Numbered service count) (closing : Bool) (id : Nat) :
    (hub.visit service closing id).Numbered service count := by
  have perm : (hub.visit service closing id).known.Perm hub.known := by
    rcases known_visit numbered.sound.keyed service closing id with same | ⟨member, same⟩ <;>
      rw [same]
    have live := (List.nodup_append.mp numbered.distinct).2.1
    rw [known, ← live.erase_eq_filter, List.append_assoc]
    exact (List.perm_cons_erase member).symm.append_left _
  refine ⟨numbered.sound.visit closing id, perm.nodup_iff.mpr numbered.distinct,
    fun other member => numbered.below other (perm.mem_iff.mp member), ?_⟩
  rcases hub.visit_cases service closing id with
    ⟨same, _⟩ | ⟨_, _, ⟨_, same⟩ | ⟨_, same⟩⟩ <;> rw [same] <;> exact numbered.next

/-- Only connections take ids. -/
theorem step_other (numbered : hub.Numbered service count) {step : Step}
    (other : step.issues = false) : (hub.step service step).Numbered service count := by
  refine run_keeps service (Numbered service count) [step] ?_ ?_ ?_ ?_ ?_ ?_ hub numbered
  · exact fun enrolls => by simp [← List.mem_singleton.mp enrolls, Step.issues] at other
  · exact fun spends => by simp [← List.mem_singleton.mp spends, Step.issues] at other
  · intro hub id step _ numbered
    have same : (hub.touch id (·.step service step)).known = hub.known :=
      known_touch hub id (·.step_id step)
    exact ⟨numbered.sound.touch id step, same ▸ numbered.distinct, same ▸ numbered.below,
      numbered.next⟩
  · exact fun hub closing id _ numbered => numbered.visit closing id
  · exact fun hub signals _ _ _ numbered => { numbered with sound := { numbered.sound with } }
  · intro _ hub numbered
    have same := known_forceClose numbered.sound.keyed
    exact ⟨numbered.sound.forceClose, same ▸ numbered.distinct, same ▸ numbered.below,
      numbered.next⟩

theorem step (numbered : hub.Numbered service count) (step : Step)
    (fits : step.issues = true → count < Word.bound) :
    ∃ more, more ≤ [step].countP (·.issues) ∧
      (hub.step service step).Numbered service (count + more) := by
  cases taken : step.issues with
  | false => exact ⟨0, Nat.zero_le _, numbered.step_other taken⟩
  | true =>
    have one : [step].countP (·.issues) = 1 := by simp [taken]
    rw [one]
    cases step with
    | enroll =>
      rw [Hub.step]
      split
      · exact ⟨0, Nat.zero_le _, numbered⟩
      · exact ⟨1, Nat.le_refl _, numbered.enroll (fits taken)⟩
    | spend =>
      rw [Hub.step]
      split
      · exact ⟨0, Nat.zero_le _, numbered⟩
      · exact ⟨1, Nat.le_refl _, numbered.spend (fits taken)⟩
    | arrive | peerEnds | breaks | act | sweep | closing | acceptDone | forceClose =>
      simp [Step.issues] at taken

/-- As long as ids do not run out no two sessions share one. -/
theorem run (numbered : hub.Numbered service count) (steps : List Step)
    (fits : count + steps.countP (·.issues) ≤ Word.bound) :
    (hub.run service steps).known.Nodup := by
  induction steps generalizing hub count with
  | nil => exact numbered.distinct
  | cons first rest ih =>
    rw [← List.singleton_append, List.countP_append] at fits
    obtain ⟨more, few, next⟩ := numbered.step first fun taken => by
      simp [taken] at fits
      omega
    exact ih next (by omega)

end Numbered

end Hub

end StreamDispatch
