import LineShell.Machine.Tools.Directories

/-!
# Making files

A file that is missing is made empty; one that is there stays as it is.
-/

namespace LineShell.Machine.Tools

def daysOfMonth (year month : Nat) : Nat :=
  if month = 2 then (if year % 4 = 0 && (year % 100 ≠ 0 || year % 400 = 0) then 29 else 28)
  else if [4, 6, 9, 11].contains month then 30
  else 31

/-- Whether a text is a time of the form `[[CC]YY]MMDDhhmm[.ss]`. -/
def isTimestamp (text : Octets) : Bool :=
  let digits := text.takeWhile (· != '.')
  let seconds := text.drop digits.length
  let pair (at_ : Nat) : Nat := numberIn 10 ((digits.drop at_).take 2)
  let year (at_ : Nat) : Nat := if at_ = 4 then 100 * pair 0 + pair 2 else 2000 + pair 0
  let isRight (at_ : Nat) : Bool :=
    let month := pair at_
    1 ≤ month && month ≤ 12 && 1 ≤ pair (at_ + 2) &&
      pair (at_ + 2) ≤ daysOfMonth (year at_) month && pair (at_ + 4) ≤ 23 && pair (at_ + 6) ≤ 59
  isNumber digits && [8, 10, 12].contains digits.length && isRight (digits.length - 8) &&
    match seconds with
    | [] => true
    | _ :: rest => rest.length = 2 && isNumber rest && numberIn 10 rest ≤ 60

/-- Makes one file if it is missing and that is wanted. -/
def touchOne (creates follows : Bool) (path : Path) : Act Nat := do
  let job ← get
  let fault : Option IoError ←
    if path = ['-'] || !creates || !follows then pure none
    else
      match job.files.openForWriting job.dir path (Mode.newFile.masked job.umask) false with
      | .ok (files, _) =>
        set (job.withFiles files)
        pure none
      | .error e => pure (if e = .isADirectory then none else some e)
  if path = ['-'] then return 0
  else
    let job ← get
    match job.files.resolve follows job.dir path, fault with
    | .ok _, _ => return 0
    | .error _, some e => refuseOf ("cannot touch " ++ quotedName path) e
    | .error e, none =>
      if !creates && e = .noSuchFile then return 0
      else refuseOf ("setting times of " ++ quotedName path) e

def timeWords : List (List String × Unit) :=
  [(["atime", "access", "use"], ()), (["mtime", "modify"], ())]

def touch (args : List Octets) : Act Nat :=
  withOptions
    [⟨' ', "time", .value⟩, ⟨'c', "no-create", .nothing⟩, ⟨'d', "date", .value⟩,
      ⟨'r', "reference", .value⟩, ⟨'h', "no-dereference", .nothing⟩, ⟨'a', "", .nothing⟩,
      ⟨'m', "", .nothing⟩, ⟨'f', "", .nothing⟩, ⟨'t', "", .value⟩] 1 args fun given => do
    let job ← get
    let follows := !given.has "h"
    let badTime : Option Refusal :=
      (given.values "time").findSome? fun word =>
        match meaningOf "--time" timeWords word with
        | .error refusal => some refusal
        | .ok () => none
    match badTime, given.value? "t", given.value? "r" with
    | some refusal, _, _ => refusal.answer
    | none, some stamp, reference =>
      if !isTimestamp stamp then refuse ("invalid date format " ++ quotedWord stamp)
      else if reference.isSome then misuse 1 "cannot specify times from more than one source"
      else run given follows
    | none, none, some reference =>
      match job.files.resolve follows job.dir reference with
      | .error e => refuseOf ("failed to get attributes of " ++ quotedName reference) e
      | .ok _ => run given follows
    | none, none, none => run given follows
where
  run (given : Given) (follows : Bool) : Act Nat :=
    if given.operands.isEmpty then misuse 1 "missing file operand"
    else forEach given.operands (touchOne (!given.has "c") follows)

end LineShell.Machine.Tools
