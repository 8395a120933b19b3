import StreamDispatch.Service

/-!
Ready-made callbacks and allocators, described by data: what a callback does after it has fired, and
how an allocator answers. The state they keep is the number of cycles that had new data.
-/
namespace StreamDispatch

structure Reactions where
  /-- Sent and flushed on open; failures are ignored. -/
  greeting : Option Bytes := none
  hangupOnOpen : Bool := false
  hangupOnException : Bool := false
  panicOnOpen : Option String := none
  panicOnClose : Option String := none
  panicOnException : Option String := none
  /-- The panic of a cycle without data. -/
  panicWhenIdle : Option String := none
  /-- Which cycle with data panics. -/
  panicAtLoop : Option Nat := none

namespace Reactions

def panicWith : Option String → Program Nat Unit
  | some text => .panic (.text text)
  | none => .done ()

def greet : Option Bytes → Program Nat Unit
  | some greeting => Program.ignore (.sendAndFlush greeting)
  | none => .done ()

def hangupIf (hangup : Bool) : Program Nat Unit :=
  if hangup then Program.ignore .closeNow else .done ()

def callbacks (reactions : Reactions) : Callbacks Nat where
  onOpen := do
    greet reactions.greeting
    hangupIf reactions.hangupOnOpen
    panicWith reactions.panicOnOpen
  onLoop fresh _ := do
    if fresh then
      let count := (← Program.state) + 1
      Program.setState count
      if reactions.panicAtLoop = some count then
        .panic (.text ("loop " ++ toString count ++ " refused"))
    else panicWith reactions.panicWhenIdle
  onException _ _ := do
    hangupIf reactions.hangupOnException
    panicWith reactions.panicOnException
  onClose _ := panicWith reactions.panicOnClose

end Reactions

structure AllocatorRule where
  /-- It panics when asked for more than this. -/
  limit : Option Nat := none
  content : Bytes := []

namespace AllocatorRule

def allocator {σ : Type} (rule : AllocatorRule) : Allocator σ := fun capacity state =>
  if rule.limit.any (· < capacity) then
    (.error (.text ("allocation of " ++ toString capacity ++ " refused")), state)
  else (.ok rule.content, state)

end AllocatorRule

end StreamDispatch
