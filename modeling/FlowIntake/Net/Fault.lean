/-
# Failures of the operating system

* `IoFault`: what the system refused, by kind and in its own words;
* `IoFault.code`: the name under which a kind is counted;
* `IoFault.ofNumber`: the failure that an error number of the system stands for.
-/

namespace FlowIntake

/-- The kinds of failure that are told apart. -/
inductive IoKind where
  | addressInUse
  | addressNotAvailable
  | connectionRefused
  | connectionReset
  | interrupted
  | invalidInput
  | permissionDenied
  | timedOut
  | unsupported
  | wouldBlock
  | other
deriving DecidableEq, Repr

/-- The name under which a kind is counted. -/
def IoKind.code : IoKind → String
  | addressInUse => "address_in_use"
  | addressNotAvailable => "address_not_available"
  | connectionRefused => "connection_refused"
  | connectionReset => "connection_reset"
  | interrupted => "operation_interrupted"
  | invalidInput => "invalid_input_parameter"
  | permissionDenied => "permission_denied"
  | timedOut => "timed_out"
  | unsupported => "unsupported"
  | wouldBlock => "operation_would_block"
  | other => "unknown"

/-- What the system refused. -/
structure IoFault where
  kind : IoKind
  text : String
deriving DecidableEq

namespace IoFault

/-- The name under which the failure is counted. -/
def code (f : IoFault) : String := f.kind.code

/-- The error numbers whose kind or words are known. -/
def known : List (Nat × IoKind × String) :=
  [(1, .permissionDenied, "Operation not permitted"),
    (2, .other, "No such file or directory"),
    (4, .interrupted, "Interrupted system call"),
    (11, .wouldBlock, "Resource temporarily unavailable"),
    (13, .permissionDenied, "Permission denied"),
    (20, .other, "Not a directory"),
    (21, .other, "Is a directory"),
    (22, .invalidInput, "Invalid argument"),
    (95, .unsupported, "Operation not supported"),
    (97, .other, "Address family not supported by protocol"),
    (98, .addressInUse, "Address already in use"),
    (99, .addressNotAvailable, "Cannot assign requested address"),
    (101, .other, "Network is unreachable"),
    (104, .connectionReset, "Connection reset by peer"),
    (110, .timedOut, "Connection timed out"),
    (111, .connectionRefused, "Connection refused")]

/-- The failure with an error number, in the given words when it is not a known one. -/
def ofNumber (n : Nat) (words : String) : IoFault :=
  let (kind, words) := (known.lookup n).getD (.other, words)
  ⟨kind, s!"{words} (os error {n})"⟩

/-- A port that another socket holds. -/
def addressInUse : IoFault := ofNumber 98 ""

/-- An address that is none of this machine's. -/
def addressNotAvailable : IoFault := ofNumber 99 ""

/-- A destination to which no way is known. -/
def networkUnreachable : IoFault := ofNumber 101 ""

/-- A file that does not exist. -/
def noSuchFile : IoFault := ofNumber 2 ""

/-- A file whose octets are no text. -/
def notText : IoFault := ⟨.other, "stream did not contain valid UTF-8"⟩

example : addressInUse.text = "Address already in use (os error 98)" := by decide +kernel

end IoFault

end FlowIntake
