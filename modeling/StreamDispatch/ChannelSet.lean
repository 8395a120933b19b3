import StreamDispatch.Word

/-!
The live channels of one endpoint, by id. Ids are handed out in turn and never taken back; a channel
that is put in under the id of another takes its place.
-/
namespace StreamDispatch

structure ChannelSet (α : Type) where
  /-- The id to hand out next; ids are machine words. -/
  nextId : Nat := 0
  members : List (Nat × α) := []
  deriving Repr

namespace ChannelSet

variable {α : Type}

def issue (set : ChannelSet α) : Nat × ChannelSet α :=
  (set.nextId, { set with nextId := (set.nextId + 1) % Word.bound })

def remove (set : ChannelSet α) (id : Nat) : ChannelSet α :=
  { set with members := set.members.filter fun member => member.1 != id }

/-- Puts a channel in, in place of one with the same id. -/
def insert (set : ChannelSet α) (id : Nat) (channel : α) : ChannelSet α :=
  { set with members := (set.remove id).members ++ [(id, channel)] }

def clear (set : ChannelSet α) : ChannelSet α := { set with members := [] }

def find? (set : ChannelSet α) (id : Nat) : Option α := set.members.lookup id

def update (set : ChannelSet α) (id : Nat) (change : α → α) : ChannelSet α :=
  { set with
    members := set.members.map fun member =>
      if member.1 = id then (id, change member.2) else member }

def ids (set : ChannelSet α) : List Nat := set.members.map (·.1)

def channels (set : ChannelSet α) : List α := set.members.map (·.2)

def size (set : ChannelSet α) : Nat := set.members.length

def isEmpty (set : ChannelSet α) : Bool := set.members.isEmpty

/-- The members in the order of their ids. -/
def sorted (set : ChannelSet α) : List (Nat × α) :=
  set.members.mergeSort fun left right => left.1 ≤ right.1

inductive Step (α : Type) where
  | issue
  | insert (id : Nat) (channel : α)
  | remove (id : Nat)
  | clear
  deriving Repr

def step (set : ChannelSet α) : Step α → ChannelSet α
  | .issue => set.issue.2
  | .insert id channel => set.insert id channel
  | .remove id => set.remove id
  | .clear => set.clear

end ChannelSet

end StreamDispatch
