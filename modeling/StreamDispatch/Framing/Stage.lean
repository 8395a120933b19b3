import StreamDispatch.Framing
import StreamDispatch.Service

/-!
Framing as the first stage of a chain, and a last stage that collects what comes out of it.
-/
namespace StreamDispatch

namespace Handler

variable {σ : Type}

/-- The bytes of the buffer that the stage holds. -/
def bytes : Program (σ × Bytes) Bytes := .look fun _ state => .done state.2

/-- Leaves these bytes in the buffer. -/
def leave (bytes : Bytes) : Program (σ × Bytes) Unit :=
  .look fun _ state => .keep (state.1, bytes) (.done ())

def passItem (item : Item) : Program σ (Except Error (Option Item)) := .done (.ok (some item))

def passBuffer : Program (σ × Bytes) (Except Error Next) := .done (.ok .buffer)

end Handler

namespace Framing

variable {σ : Type}

/-- Cuts the complete frames off the buffer; the chain ends if there is none. -/
def handler (framing : Framing) : Handler σ where
  onBuffer := do
    let (result, rest) := framing.decode (← Handler.bytes)
    Handler.leave rest
    match result with
    | .error fault => return .error (.frame fault)
    | .ok [] => return .ok .stop
    | .ok frames => return .ok (.item (.frames frames))
  onItem item := .done (.error (.frame (.noBuffer item.inspect)))

end Framing

end StreamDispatch
