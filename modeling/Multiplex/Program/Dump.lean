import Multiplex.Failure
import Multiplex.Program.CommandLine
import Multiplex.Section.Checksum
import Multiplex.Session.World

/-!
# Dumping sections

Sections are read one after the other and shown until there are as many as were asked for, or until
reading fails for good. Sections with a wrong checksum, bytes that are no section, and reads that
lost data are passed over with a warning and do not count.
-/

namespace Multiplex.Program

open Multiplex.Text Multiplex.Session

/-- What becomes of a read. -/
inductive Verdict
  | shown (s : Section)
  | skipped (warning : String)
  | fatal (error : String)
  /-- The device has nothing more to say. -/
  | silent

/-- Whether a section's checksum does not matter or is right. -/
def SectionRequest.trusts (r : SectionRequest) (raw : List UInt8) : Bool :=
  !r.verify || Section.Checksum.verify raw

/-- What becomes of a failed read. -/
def SectionRequest.judgeFailure (r : SectionRequest) (f : Failure) : Verdict :=
  if f.isOverflow then
    .skipped ("Demux buffer overflow on PID 0x" ++ hexUpper 4 r.pid.toNat ++ ", sections were lost")
  else if f.isTimeout then
    .fatal ("No section within " ++ toString (r.timeout?.getD 0) ++ " ms")
  else .fatal ("Read failed: " ++ f.message)

/-- What becomes of bytes that were read. -/
def SectionRequest.judgeBytes (r : SectionRequest) (raw : List UInt8) : Verdict :=
  if r.trusts raw then
    match Section.decode raw with
    | .ok s => .shown s
    | .error cause => .skipped ("Skipping section: " ++ cause.message)
  else .skipped ("Dropping section with bad CRC (" ++ toString raw.length ++ " bytes)")

/-- What becomes of a read. -/
def SectionRequest.judge (r : SectionRequest) : Except Failure (Option (List UInt8)) → Verdict
  | .ok (some raw) => r.judgeBytes raw
  | .ok none => .silent
  | .error f => r.judgeFailure f

/-- How a dump ended. -/
inductive DumpEnd
  /-- As many sections were shown as were asked for. -/
  | complete
  /-- A read failed for good. -/
  | failed
  /-- The device had nothing more to say. -/
  | silent
  deriving DecidableEq

/-- The exit code that a dump leads to. -/
def DumpEnd.code : DumpEnd → Nat
  | complete | silent => 0
  | failed => 1

/-- Reads and shows sections until `left?` of them were shown, for so many rounds at most. -/
def dump [Monad m] (r : SectionRequest) (next : m (Except Failure (Option (List UInt8))))
    (render : Section → m Unit) (say : Level → String → m Unit) :
    (rounds : Nat) → (left? : Option Nat) → m DumpEnd
  | _, some 0 => return .complete
  | 0, _ => return .silent
  | rounds + 1, left? => do
    match r.judge (← next) with
    | .shown s =>
      render s
      dump r next render say rounds (left?.map (· - 1))
    | .skipped warning =>
      say .warning warning
      dump r next render say rounds left?
    | .fatal error =>
      say .error error
      return .failed
    | .silent => return .silent

end Multiplex.Program
