/-!
Spans of time, and their display in the largest unit that leaves a whole part.
-/
namespace StreamDispatch

structure Duration where
  nanoseconds : Nat
  deriving DecidableEq, Repr, Inhabited

namespace Duration

def ofMilliseconds (count : Nat) : Duration := ⟨count * 1000000⟩

def ofSeconds (count : Nat) : Duration := ⟨count * 1000000000⟩

def isZero (span : Duration) : Bool := span.nanoseconds == 0

/-- The digits of a fraction `value / 10 ^ width` without its trailing zeros. -/
def fraction : (width value : Nat) → String
  | 0, _ => ""
  | width + 1, value =>
    if value % 10 = 0 then fraction width (value / 10)
    else
      let shown := toString value
      String.ofList (List.replicate (width + 1 - shown.length) '0') ++ shown

/-- `value` counted in units, with as many of `width` decimals as it needs. -/
def inUnits (value unit width : Nat) (name : String) : String :=
  let decimals := fraction width (value % unit)
  toString (value / unit) ++ (if decimals.isEmpty then "" else "." ++ decimals) ++ name

/-- Seconds from one second on, else milliseconds, microseconds or nanoseconds. -/
def text (span : Duration) : String :=
  let value := span.nanoseconds
  if value < 1000 then inUnits value 1 0 "ns"
  else if value < 1000000 then inUnits value 1000 3 "µs"
  else if value < 1000000000 then inUnits value 1000000 6 "ms"
  else inUnits value 1000000000 9 "s"

example : (Duration.mk 1234567).text = "1.234567ms" := by decide +kernel
example : (Duration.mk 1500).text = "1.5µs" := by decide +kernel
example : (ofSeconds 60).text = "60s" := by decide +kernel
example : (Duration.mk 3600000000001).text = "3600.000000001s" := by decide +kernel

end Duration

end StreamDispatch
