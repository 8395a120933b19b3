import StreamDispatch.Bytes

/-!
What one stage of a handler chain passes to the next: the channel's buffer, frames cut from it, or
a value of the application's own.
-/
namespace StreamDispatch

inductive Value where
  | number (value : UInt32)
  | text (value : String)
  | flag (value : Bool)
  deriving DecidableEq, Repr

namespace Value

def number? : Value → Option UInt32
  | number value => some value
  | _ => none

def text? : Value → Option String
  | text value => some value
  | _ => none

def flag? : Value → Option Bool
  | flag value => some value
  | _ => none

end Value

/-- A message that no longer holds the channel's buffer. -/
inductive Item where
  | frames (frames : List Bytes)
  | value (value : Value)
  deriving DecidableEq, Repr

inductive Message where
  | buffer (bytes : Bytes)
  | item (item : Item)
  deriving DecidableEq, Repr

namespace Item

def frames? : Item → Option (List Bytes)
  | frames list => some list
  | value _ => none

def value? : Item → Option Value
  | frames _ => none
  | value content => some content

/-- How an item is shown: frames by their number, values without their content. -/
def inspect : Item → String
  | frames list => "Frames(" ++ toString list.length ++ ")"
  | value _ => "Value(..)"

end Item

namespace Message

def frames? : Message → Option (List Bytes)
  | buffer _ => none
  | item content => content.frames?

def value? : Message → Option Value
  | buffer _ => none
  | item content => content.value?

/-- How a message is shown: buffers by their length, items as above. -/
def inspect : Message → String
  | buffer bytes => "Buffer(" ++ toString bytes.length ++ ")"
  | item content => content.inspect

end Message

end StreamDispatch
