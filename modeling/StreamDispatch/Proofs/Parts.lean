import StreamDispatch.Proofs.Population

/-! The part that one channel has in a dispatch loop. What happens to the loop changes the part as
the signals, the id to hand out and the part itself decide, and nothing else about the loop. -/
namespace StreamDispatch

variable {σ : Type}

/-! ### One channel of a set -/

namespace ChannelSet

variable {α : Type}

def only (set : ChannelSet α) (id : Nat) : ChannelSet α :=
  { members := set.members.filter fun member => member.1 == id }

variable {id other : Nat}

theorem mem_only {set : ChannelSet α} {member : Nat × α} :
    member ∈ (set.only id).members ↔ member ∈ set.members ∧ member.1 = id := by
  simp [only]

theorem find?_only (set : ChannelSet α) (id : Nat) : (set.only id).find? id = set.find? id := by
  simp only [find?, only]
  induction set.members with
  | nil => rfl
  | cons member rest ih =>
    rcases member with ⟨key, channel⟩
    by_cases mine : key = id
    · simp [mine]
    · have differs : (id == key) = false := by simpa using Ne.symm mine
      rw [List.filter_cons_of_neg (by simpa using mine), ih, List.lookup_cons, differs]

theorem only_issue (set : ChannelSet α) (id : Nat) : set.issue.2.only id = set.only id := rfl

theorem only_remove_own (set : ChannelSet α) (id : Nat) :
    (set.remove id).only id = (set.only id).remove id := by
  simp only [only, remove, List.filter_filter, Bool.and_comm]

theorem only_remove_other (set : ChannelSet α) (differs : other ≠ id) :
    (set.remove other).only id = set.only id := by
  simp only [only, remove, List.filter_filter, mk.injEq, true_and]
  refine List.filter_congr fun member _ => ?_
  by_cases mine : member.1 = id
  · simp [mine, differs.symm]
  · simp [mine]

theorem only_update_own (set : ChannelSet α) (id : Nat) (change : α → α) :
    (set.update id change).only id = (set.only id).update id change := by
  simp only [only, update, List.filter_map, mk.injEq, true_and]
  congr 1
  refine List.filter_congr fun member _ => ?_
  simp only [Function.comp_apply]
  split
  · rename_i mine
    simp [mine]
  · rfl

theorem only_update_other (set : ChannelSet α) (differs : other ≠ id) (change : α → α) :
    (set.update other change).only id = set.only id := by
  simp only [only, update, mk.injEq, true_and]
  induction set.members with
  | nil => rfl
  | cons member rest ih =>
    by_cases theirs : member.1 = other
    · simpa [theirs, differs] using ih
    · simp [theirs, List.filter_cons, ih]

theorem only_insert_own (set : ChannelSet α) (id : Nat) (channel : α) :
    (set.insert id channel).only id = { members := [(id, channel)] } := by
  simp only [only, insert, remove, List.filter_append, List.filter_filter, mk.injEq, true_and]
  simp

theorem only_insert_other (set : ChannelSet α) (differs : other ≠ id) (channel : α) :
    (set.insert other channel).only id = set.only id := by
  have same := set.only_remove_other differs
  simp only [only, mk.injEq, true_and] at same ⊢
  simp [insert, same, differs]

end ChannelSet

/-! ### What happens to a loop -/

/-- Something that happens to one session, other than a visit of the loop. -/
structure Session.Change (σ : Type) where
  apply : Session σ → Session σ
  keeps : ∀ session, (apply session).channel.id = session.channel.id

namespace Session.Change

/-- A step of the peer or of the application. -/
def ofStep (service : Service σ) (step : Step) : Change σ :=
  ⟨(·.step service step), fun session => session.step_id step⟩

/-- Work that outlasts sweeps takes the lock. -/
def lock : Change σ := ⟨Session.lock, fun _ => rfl⟩

def unlock : Change σ := ⟨Session.unlock, fun _ => rfl⟩

end Session.Change

namespace Hub

/-- What can happen to a dispatch loop, with everything that can happen to one of its sessions. -/
inductive Happening (σ : Type) where
  | enroll
  | spend
  | touch (id : Nat) (change : Session.Change σ)
  | sweep (order : List Nat)
  | closing
  | acceptDone
  | forceClose

def undergo (service : Service σ) (hub : Hub σ) : Happening σ → Hub σ
  | .enroll => if hub.signals.acceptDone then hub else (hub.enroll service).2
  | .spend => if hub.signals.acceptDone then hub else hub.spend
  | .touch id change => hub.touch id change.apply
  | .sweep order => hub.sweep service order
  | .closing => { hub with signals := { hub.signals with closing := true } }
  | .acceptDone => { hub with signals := { hub.signals with acceptDone := true } }
  | .forceClose => hub.forceClose

def undergoAll (service : Service σ) (happenings : List (Happening σ)) (hub : Hub σ) : Hub σ :=
  happenings.foldl (undergo service) hub

@[simp] theorem undergoAll_append (service : Service σ) (earlier later : List (Happening σ))
    (hub : Hub σ) :
    hub.undergoAll service (earlier ++ later) =
      (hub.undergoAll service earlier).undergoAll service later := by
  simp [undergoAll]

/-- A step as a happening. -/
def Step.happening (service : Service σ) : Step → Happening σ
  | .enroll => .enroll
  | .spend => .spend
  | .arrive id bytes => .touch id (.ofStep service (.arrive bytes))
  | .peerEnds id => .touch id (.ofStep service .peerEnds)
  | .breaks id => .touch id (.ofStep service .breaks)
  | .act id action => .touch id (.ofStep service (.act action))
  | .sweep order => .sweep order
  | .closing => .closing
  | .acceptDone => .acceptDone
  | .forceClose => .forceClose

/-- Runs are rows of happenings. -/
theorem undergoAll_happening (service : Service σ) (hub : Hub σ) (steps : List Step) :
    hub.undergoAll service (steps.map (·.happening service)) = hub.run service steps := by
  induction steps generalizing hub with
  | nil => rfl
  | cons first rest ih =>
    have same : hub.undergo service (first.happening service) = hub.step service first := by
      cases first <;> rfl
    rw [List.map_cons, undergoAll, List.foldl_cons, same]
    exact ih _

variable {service : Service σ} {hub : Hub σ} {id other : Nat}

/-! ### Who lives in a loop, whatever happens -/

/-- What visits keep of single sessions holds of all who live after a row of them. -/
theorem visits_members (service : Service σ) (closing : Bool) (holds : Nat → Session σ → Prop)
    (stepped : ∀ id session, holds id session → holds id (session.step service (.visit closing)))
    (order : List Nat) (all : ∀ member ∈ hub.live.members, holds member.1 member.2) :
    ∀ member ∈ (hub.visits service closing order).live.members, holds member.1 member.2 := by
  induction order generalizing hub with
  | nil => exact all
  | cons first rest ih =>
    refine ih fun member found => ?_
    obtain ⟨session, present, same | same⟩ := mem_visit found <;> rw [same]
    · exact stepped _ _ (all _ present)
    · exact all _ present

/-- What steps and changes keep of single sessions, and what holds of new ones, holds of all who
live after something happened. -/
theorem undergo_members (holds : Nat → Session σ → Prop) (happening : Happening σ)
    (entered : ∀ id, holds id (service.session id) ∨ happening ≠ .enroll)
    (stepped : ∀ id session closing, holds id session →
      holds id (session.step service (.visit closing)))
    (changed : ∀ id session (change : Session.Change σ), holds id session →
      holds id (change.apply session))
    (all : ∀ member ∈ hub.live.members, holds member.1 member.2) :
    ∀ member ∈ (hub.undergo service happening).live.members, holds member.1 member.2 := by
  cases happening with
  | enroll =>
    rw [undergo]
    split
    · exact all
    · rcases hub.enroll_cases service with ⟨_, same⟩ | ⟨_, same⟩ <;> rw [same]
      · exact all
      · intro member found
        rcases ChannelSet.mem_insert found with old | rfl
        · exact all member old
        · exact (entered _).resolve_right (by simp)
  | spend =>
    rw [undergo]
    split <;> exact all
  | touch id change =>
    intro member found
    obtain ⟨old, present, ⟨_, same⟩ | ⟨_, same⟩⟩ := ChannelSet.mem_update found <;> rw [same]
    · exact changed _ _ change (all _ present)
    · exact all _ present
  | sweep order =>
    have visited := visits_members service hub.signals.closing holds
      (fun id session => stepped id session _) order all
    rw [undergo]
    rcases hub.sweep_cases service order with ⟨_, same⟩ | ⟨_, ⟨_, _, same⟩ | ⟨_, same⟩⟩ <;>
      rw [same]
    · exact all
    · exact visited
    · exact visited
  | closing | acceptDone => exact all
  | forceClose => simp [undergo, forceClose, ChannelSet.clear]

theorem Keyed.visit (keyed : hub.Keyed) (service : Service σ) (closing : Bool) (id : Nat) :
    (hub.visit service closing id).Keyed :=
  visits_members service closing (fun id session => session.channel.id = id)
    (fun _ session same => (session.step_id _).trans same) [id] keyed

theorem Keyed.undergo (keyed : hub.Keyed) (service : Service σ) (happening : Happening σ) :
    (hub.undergo service happening).Keyed :=
  undergo_members (fun id session => session.channel.id = id) happening (fun _ => .inl rfl)
    (fun _ session _ same => (session.step_id _).trans same)
    (fun _ session change same => (change.keeps session).trans same) keyed

theorem Keyed.undergoAll (keyed : hub.Keyed) (service : Service σ)
    (happenings : List (Happening σ)) : (hub.undergoAll service happenings).Keyed := by
  induction happenings generalizing hub with
  | nil => exact keyed
  | cons first rest ih => exact ih (keyed.undergo service first)

/-! ### The part of one channel -/

/-- What concerns one channel. -/
def part (id : Nat) (hub : Hub σ) : Hub σ where
  live := hub.live.only id
  departed := hub.departed.filter fun session => session.channel.id == id

theorem find?_part (id : Nat) (hub : Hub σ) : (hub.part id).find? id = hub.find? id := by
  simp only [find?, part, ChannelSet.find?_only, List.find?_filter]
  split
  · rfl
  · congr 1
    funext session
    simp

/-- Loops with one part for a channel find it in one place. -/
theorem find?_of_part {hub other : Hub σ} (same : hub.part id = other.part id) :
    hub.find? id = other.find? id ∧ hub.live.find? id = other.live.find? id := by
  have live : (hub.part id).live.find? id = (other.part id).live.find? id := by rw [same]
  simp only [part, ChannelSet.find?_only] at live
  exact ⟨by rw [← find?_part, same, find?_part], live⟩

theorem part_departs_own {session : Session σ} (mine : session.channel.id = id)
    (departed : List (Session σ)) :
    (departed ++ [session]).filter (fun session => session.channel.id == id) =
      departed.filter (fun session => session.channel.id == id) ++ [session] := by
  simp [mine]

theorem part_departs_other {session : Session σ} (theirs : session.channel.id ≠ id)
    (departed : List (Session σ)) :
    (departed ++ [session]).filter (fun session => session.channel.id == id) =
      departed.filter (fun session => session.channel.id == id) := by
  simp [theirs]

theorem part_touch_own (hub : Hub σ) (id : Nat) (change : Session.Change σ) :
    (hub.touch id change.apply).part id = (hub.part id).touch id change.apply := by
  simp only [part, touch, ChannelSet.only_update_own, List.filter_map, mk.injEq, true_and, and_true]
  congr 1
  refine List.filter_congr fun session _ => ?_
  simp only [Function.comp_apply]
  split
  · rw [change.keeps]
  · rfl

theorem part_touch_other (hub : Hub σ) (differs : other ≠ id) (change : Session.Change σ) :
    (hub.touch other change.apply).part id = hub.part id := by
  simp only [part, touch, ChannelSet.only_update_other _ differs, mk.injEq, true_and, and_true]
  induction hub.departed with
  | nil => rfl
  | cons session rest ih =>
    by_cases theirs : session.channel.id = other
    · simpa [theirs, differs, change.keeps] using ih
    · simp [theirs, List.filter_cons, ih]

theorem part_visit_own (keyed : hub.Keyed) (service : Service σ) (closing : Bool) (id : Nat) :
    (hub.visit service closing id).part id = (hub.part id).visit service closing id := by
  have same : (hub.part id).live.find? id = hub.live.find? id := ChannelSet.find?_only ..
  unfold visit
  rw [same]
  cases found : hub.live.find? id with
  | none => rfl
  | some session =>
    have mine : session.channel.id = id := keyed _ (ChannelSet.find?_mem found)
    cases after : session.visit service closing with
    | none =>
      simp only [after, part, ChannelSet.only_remove_own, part_departs_own mine]
    | some after => simp only [part, ChannelSet.only_update_own, after]

theorem part_visit_other (keyed : hub.Keyed) (service : Service σ) (closing : Bool)
    (differs : other ≠ id) : (hub.visit service closing other).part id = hub.part id := by
  rcases hub.visit_cases service closing other with
    ⟨same, _⟩ | ⟨session, found, ⟨_, same⟩ | ⟨_, same⟩⟩ <;> rw [same]
  · have theirs : session.channel.id ≠ id := (keyed _ found).trans_ne differs
    simp only [part, ChannelSet.only_remove_other _ differs, part_departs_other theirs]
  · simp only [part, ChannelSet.only_update_other _ differs]

theorem part_visits (keyed : hub.Keyed) (service : Service σ) (closing : Bool) (order : List Nat)
    (id : Nat) :
    (hub.visits service closing order).part id =
      (hub.part id).visits service closing (order.filter (· == id)) := by
  induction order generalizing hub with
  | nil => rfl
  | cons first rest ih =>
    have later := ih (keyed.visit service closing first)
    by_cases mine : first = id
    · subst mine
      rw [part_visit_own keyed] at later
      rw [List.filter_cons_of_pos (by simp)]
      exact later
    · rw [part_visit_other keyed service closing mine] at later
      rw [List.filter_cons_of_neg (by simpa using mine)]
      exact later

/-- Where nobody lives visits are idle. -/
theorem visits_absent (absent : hub.live.members = []) (service : Service σ) (closing : Bool)
    (order : List Nat) : hub.visits service closing order = hub := by
  induction order with
  | nil => rfl
  | cons id rest ih =>
    have idle : hub.visit service closing id = hub := by
      simp [visit, ChannelSet.find?, absent]
    rw [visits, List.foldl_cons, idle]
    exact ih

/-- What a happening makes of the part of one channel, which the signals and the id to hand out
decide as well. -/
def follow (service : Service σ) (signals : Signals) (nextId id : Nat) (own : Hub σ) :
    Happening σ → Hub σ
  | .enroll =>
    if signals.acceptDone || nextId != id then own
    else if signals.terminated then
      { own with
        departed := own.departed ++ [(service.session id).updateChannel Channel.closeNow] }
    else { own with live := { members := [(id, service.session id)] } }
  | .touch touched change => if touched = id then own.touch id change.apply else own
  | .sweep order =>
    if signals.terminated then own
    else own.visits service signals.closing (order.filter (· == id))
  | .spend | .closing | .acceptDone => own
  | .forceClose =>
    { departed := own.departed ++ own.live.channels.map (·.updateChannel Channel.closeNow) }

theorem part_enroll (hub : Hub σ) (service : Service σ) (id : Nat)
    (accepts : hub.signals.acceptDone = false) :
    (hub.enroll service).2.part id =
      (hub.part id).follow service hub.signals hub.live.nextId id .enroll := by
  have entered : ((service.session hub.live.nextId).updateChannel Channel.closeNow).channel.id =
      hub.live.nextId := Session.closeNow_id _
  by_cases mine : hub.live.nextId = id
  · rw [follow, if_neg (by simp [accepts, mine])]
    rcases hub.enroll_cases service with ⟨ended, same⟩ | ⟨running, same⟩ <;> rw [same]
    · rw [if_pos ended]
      simp only [part, part_departs_own (entered.trans mine), ChannelSet.only_issue]
      rw [mine]
    · rw [if_neg (by simp [running])]
      simp only [part, mine, ChannelSet.only_insert_own]
  · rw [follow, if_pos (by simp [mine])]
    rcases hub.enroll_cases service with ⟨_, same⟩ | ⟨_, same⟩ <;> rw [same]
    · simp only [part, part_departs_other (entered.trans_ne mine), ChannelSet.only_issue]
    · simp only [part, ChannelSet.only_insert_other _ mine, ChannelSet.only_issue]

theorem part_forceClose (keyed : hub.Keyed) (id : Nat) :
    hub.forceClose.part id =
      { departed := (hub.part id).departed ++
          (hub.part id).live.channels.map (·.updateChannel Channel.closeNow) } := by
  have dropped : (hub.live.channels.map (·.updateChannel Channel.closeNow)).filter
      (fun session => session.channel.id == id) =
        (hub.live.only id).channels.map (·.updateChannel Channel.closeNow) := by
    simp only [ChannelSet.channels, ChannelSet.only, List.map_map, List.filter_map]
    congr 1
    refine List.filter_congr fun member found => ?_
    simp only [Function.comp_apply, Session.closeNow_id]
    rw [keyed member found]
  simp only [part, forceClose, List.filter_append, dropped]
  rfl

/-- One channel sees of a happening what the signals, the id to hand out and its own part decide. -/
theorem part_undergo (keyed : hub.Keyed) (service : Service σ) (id : Nat)
    (happening : Happening σ) :
    (hub.undergo service happening).part id =
      (hub.part id).follow service hub.signals hub.live.nextId id happening := by
  cases happening with
  | enroll =>
    cases accepts : hub.signals.acceptDone with
    | true => simp [undergo, follow, accepts]
    | false =>
      rw [undergo, if_neg (by simp [accepts])]
      exact hub.part_enroll service id accepts
  | spend =>
    rw [undergo]
    split <;> rfl
  | touch touched change =>
    rw [undergo, follow]
    split
    · rename_i mine
      rw [mine]
      exact hub.part_touch_own id change
    · rename_i differs
      exact hub.part_touch_other differs change
  | sweep order =>
    have visited := part_visits keyed service hub.signals.closing order id
    rw [undergo, follow]
    rcases hub.sweep_cases service order with ⟨ended, same⟩ | ⟨running, news⟩
    · rw [same, if_pos ended]
    · rw [if_neg (by simp [running])]
      rcases news with ⟨_, _, same⟩ | ⟨_, same⟩ <;> rw [same] <;> exact visited
  | closing | acceptDone => rfl
  | forceClose => exact part_forceClose keyed id

end Hub

end StreamDispatch
