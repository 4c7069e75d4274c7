/-!
# Faults of the operating system

## Main definitions

* `Fault` - why a transfer, a connection or a file access failed
* `Fault.message` - what the user is told
-/

namespace Supervisor

/-- Why a transfer, a connection or a file access failed. -/
inductive Fault where
  /-- The input ended before all bytes were there. -/
  | endOfInput
  /-- A write moved no byte. -/
  | nothingWritten
  | brokenPipe
  | connectionReset
  | timedOut
  | wouldBlock
  | connectionRefused
  | noSuchFile
  | notADirectory
  | isADirectory
  /-- A file that should hold a text is not well-formed UTF-8. -/
  | notText
  /-- A path holds a NUL character, which ends paths for the system. -/
  | nulInPath
  /-- A path or one of its steps is longer than the system allows. -/
  | nameTooLong
  /-- Any other fault that the system has a number for. An interrupted transfer is none of them: it
  is made again. -/
  | system (number : UInt32) (text : String)
  deriving DecidableEq, Repr

/-- What the user is told. Faults that the system numbers carry their number. -/
def Fault.message : Fault → String
  | endOfInput => "failed to fill whole buffer"
  | nothingWritten => "failed to write whole buffer"
  | brokenPipe => "broken pipe"
  | connectionReset => "connection reset"
  | timedOut => "timed out"
  | wouldBlock => "operation would block"
  | connectionRefused => "Connection refused (os error 111)"
  | noSuchFile => "No such file or directory (os error 2)"
  | notADirectory => "Not a directory (os error 20)"
  | isADirectory => "Is a directory (os error 21)"
  | notText => "stream did not contain valid UTF-8"
  | nulInPath => "file name contained an unexpected NUL byte"
  | nameTooLong => "File name too long (os error 36)"
  | system number text => s!"{text} (os error {number})"

end Supervisor
