import StreamDispatch.Message

/-!
A bench for one message. Taking its content out uses it up; asking for a value of the wrong kind
gives it back.
-/
namespace StreamDispatch.Bench

inductive MessageStep where
  | inspect
  | frames
  | number
  | text
  | flag

inductive MessageAnswer where
  | shown (text : String)
  | frames (content : Option (List Bytes))
  | value (content : Value)
  /-- The message holds something else. -/
  | kept (shown : String)
  /-- The message was used up before. -/
  | gone

namespace MessageStep

/-- The value, if it is of the kind that the step asks for. -/
def wanted? : MessageStep → Value → Option Value
  | number, .number value => some (.number value)
  | text, .text value => some (.text value)
  | flag, .flag value => some (.flag value)
  | _, _ => none

def perform (message : Message) : MessageStep → MessageAnswer × Option Message
  | inspect => (.shown message.inspect, some message)
  | frames => (.frames message.frames?, none)
  | step =>
    match message.value?.bind step.wanted? with
    | some value => (.value value, none)
    | none => (.kept message.inspect, some message)

def run : Option Message → List MessageStep → List MessageAnswer
  | _, [] => []
  | none, _ :: rest => .gone :: run none rest
  | some message, step :: rest =>
    let (answer, next) := step.perform message
    answer :: run next rest

end MessageStep

end StreamDispatch.Bench
