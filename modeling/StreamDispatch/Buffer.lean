import StreamDispatch.Bytes
import StreamDispatch.Error

/-!
Buffers of unconsumed bytes and the allocator that makes room for them. A buffer is kept as it is or
copied whole into a fresh one; `Placement` says which, and `place` asks the allocator.
-/
namespace StreamDispatch

/-- The bytes a channel may hold between cycles unless it is told otherwise. -/
def defaultBufferSize : Nat := 8192

/-- An allocator is application code: it is asked for a capacity, and answers with the content its
buffer already has, or panics. It may keep a state between requests. -/
def Allocator (σ : Type) := Nat → σ → Except Panic Bytes × σ

namespace Allocator

def empty {σ : Type} : Allocator σ := fun _ state => (.ok [], state)

def HandsOutEmpty {σ : Type} (allocator : Allocator σ) : Prop :=
  ∀ capacity state, (allocator capacity state).1 = .ok []

def EmptyOrPanics {σ : Type} (allocator : Allocator σ) : Prop :=
  ∀ capacity state content, (allocator capacity state).1 = .ok content → content = []

theorem empty_handsOutEmpty {σ : Type} : (empty : Allocator σ).HandsOutEmpty := fun _ _ => rfl

end Allocator

/-- Where the bytes of a buffer go. -/
inductive Placement where
  /-- They stay where they are. -/
  | inPlace (bytes : Bytes)
  /-- They are copied into a buffer asked for by their number. -/
  | copied (bytes : Bytes)
  deriving DecidableEq, Repr

namespace Placement

/-- The buffer after a chain run that was offered so many bytes: kept if nothing was consumed,
dropped if everything was, and copied otherwise. Only lengths are compared. -/
def compact (buffer : Bytes) (offered : Nat) : Placement :=
  if buffer.length = offered then .inPlace buffer
  else if buffer.isEmpty then .inPlace []
  else .copied buffer

/-- The pending bytes with newly read ones after them. -/
def extend (pending fresh : Bytes) : Placement :=
  if pending.isEmpty then .inPlace fresh
  else if fresh.isEmpty then .inPlace pending
  else .copied (pending ++ fresh)

def bytes : Placement → Bytes
  | inPlace bytes => bytes
  | copied bytes => bytes

def request? : Placement → Option Nat
  | inPlace _ => none
  | copied bytes => some bytes.length

/-- Places the bytes; what a fresh buffer already holds comes in front of them. -/
def place {σ : Type} (allocator : Allocator σ) (placement : Placement) (state : σ) :
    Except Panic Bytes × σ :=
  match placement with
  | inPlace bytes => (.ok bytes, state)
  | copied bytes =>
    match allocator bytes.length state with
    | (.ok content, next) => (.ok (content ++ bytes), next)
    | (.error payload, next) => (.error payload, next)

@[simp] theorem bytes_extend (pending fresh : Bytes) :
    (extend pending fresh).bytes = pending ++ fresh := by
  unfold extend
  split
  · rename_i none; simp_all [bytes]
  · split
    · rename_i none; simp_all [bytes]
    · rfl

@[simp] theorem bytes_compact (buffer : Bytes) (offered : Nat) :
    (compact buffer offered).bytes = buffer := by
  unfold compact
  split
  · rfl
  · split
    · rename_i none; simp_all [bytes]
    · rfl

theorem place_of_handsOutEmpty {σ : Type} {allocator : Allocator σ}
    (empty : allocator.HandsOutEmpty) (placement : Placement) (state : σ) :
    (placement.place allocator state).1 = .ok placement.bytes := by
  cases placement with
  | inPlace _ => rfl
  | copied content =>
    have answer := empty content.length state
    cases found : allocator content.length state with
    | mk result next =>
      rw [found] at answer
      simp only at answer
      simp [place, found, answer, bytes]

end Placement

end StreamDispatch
