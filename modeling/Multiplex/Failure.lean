import Multiplex.Section.Reader
import Multiplex.SystemError
import Multiplex.Text.Quoted

/-!
# Failures

Why an operation on frontends, filters or scan tables failed. Several failures of one operation
are kept together in the order in which they happened.
-/

namespace Multiplex

/-- Why an operation failed. -/
inductive Failure
  /-- An argument or a state that the operation does not take. -/
  | badParameter (text : String)
  /-- What was asked for is closed or was never there. -/
  | notFound (text : String)
  /-- A command that the device refused. -/
  | command (name : String) (cause : SystemError)
  /-- An operation that is not offered. -/
  | notImplemented (name : String)
  /-- A line of a scan table that has none of the known forms; lines count from one. -/
  | malformedLine (number : Nat) (text : String)
  /-- The system refused. -/
  | system (cause : SystemError)
  /-- Bytes that are no section. -/
  | decode (cause : Section.DecodeError)
  /-- Several failures. -/
  | multiple (causes : List Failure)

namespace Failure

mutual

/-- What went wrong, in words. -/
def message : Failure → String
  | badParameter text => "Bad parameter: " ++ text
  | notFound text => "Not found: " ++ text
  | command name cause => name ++ " failed: " ++ cause.message
  | notImplemented name => name ++ " is not implemented"
  | malformedLine number text =>
    "Syntax error at line " ++ toString number ++ ": " ++ Text.quoted text
  | system cause => "I/O error: " ++ cause.message
  | decode cause => "Section decode error: " ++ cause.message
  | multiple causes =>
    toString causes.length ++ " errors: " ++ String.intercalate "; " (messages causes)

/-- The words of several failures. -/
def messages : List Failure → List String
  | [] => []
  | f :: rest => f.message :: messages rest

end

mutual

/-- The single failures of a failure, in order. -/
def leaves : Failure → List Failure
  | multiple causes => leavesOfAll causes
  | f => [f]

/-- The single failures of several failures, in order. -/
def leavesOfAll : List Failure → List Failure
  | [] => []
  | f :: rest => f.leaves ++ leavesOfAll rest

end

/-- A read that lost data, after which reading can go on. -/
def isOverflow : Failure → Bool
  | command _ cause => cause.isOverflow
  | system cause => cause.isOverflow
  | _ => false

/-- A read that found nothing within its time. -/
def isTimeout : Failure → Bool
  | system cause => cause.isTimeout
  | _ => false

/-- The outcome of several attempts: success if none failed, the failure if one did, and
otherwise all of them. -/
def collect : List Failure → Except Failure Unit
  | [] => .ok ()
  | [f] => .error f
  | fs => .error (multiple fs)

end Failure

end Multiplex
