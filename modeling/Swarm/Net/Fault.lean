/-!
# Faults of the operating system

What can go wrong with a file or a connection, and the words in which it is reported.
-/

namespace Swarm.Net

/-- A failed read, write or connection attempt. -/
inductive Fault where
  | endOfFile
  | refused
  | reset
  | brokenPipe
  | unreachable
  | timedOut
  | missingFile
  | other (text : String)
deriving DecidableEq

/-- The words for a fault. -/
def Fault.message : Fault → String
  | endOfFile => "unexpected end of file"
  | refused => "Connection refused (os error 111)"
  | reset => "Connection reset by peer (os error 104)"
  | brokenPipe => "Broken pipe (os error 32)"
  | unreachable => "Network is unreachable (os error 101)"
  | timedOut => "Connection timed out (os error 110)"
  | missingFile => "No such file or directory (os error 2)"
  | other text => text

end Swarm.Net
