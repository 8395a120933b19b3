import StreamDispatch.Echo.Command

/-!
The echo demonstration as a program, on a machine that can listen but reach no other.
-/
namespace StreamDispatch.Echo

/-- Waits until standard input ends. -/
def waitForEnd : IO UInt32 := do
  let _ ← (← IO.getStdin).readToEnd
  return 0

def Result.display : Result → IO UInt32
  | .completed ended => do
    (← IO.getStdout).putStr ended.stdout
    (← IO.getStderr).putStr ended.stderr
    return UInt32.ofNat ended.code
  | .serving server => do
    for address in server.address do
      IO.println (readyLine address.text)
    waitForEnd
  | .waiting => waitForEnd

end StreamDispatch.Echo

def main (arguments : List String) : IO UInt32 :=
  (StreamDispatch.Echo.run .isolated StreamDispatch.Echo.silence arguments).display
