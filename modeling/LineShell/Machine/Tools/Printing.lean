import LineShell.Machine.Template
import LineShell.Machine.Tools.Basic

/-!
# Printing

Programs that print their operands and files.
-/

namespace LineShell.Machine.Tools

def isEchoOption (arg : Octets) : Bool :=
  match arg with
  | '-' :: c :: rest => (c :: rest).all fun c => c = 'n' || c = 'e' || c = 'E'
  | _ => false

def echo (args : List Octets) : Act Nat := do
  let flags := args.takeWhile isEchoOption
  let text := spaced (args.drop flags.length)
  let letters := flags.flatMap (·.drop 1)
  let carriesOut := (letters.reverse.find? fun c => c = 'e' || c = 'E') = some 'e'
  let ending : Octets := if letters.contains 'n' then [] else ['\n']
  if carriesOut then
    let result := Escape.argument .words text
    say (if result.stopped then result.text else result.text ++ ending)
  else say (text ++ ending)
  return 0

/-- Prints its operands as a template says. -/
def printf (args : List Octets) : Act Nat := do
  match (if args.head? = some ['-', '-'] then args.tail else args) with
  | [] => misuse 1 "missing operand"
  | template :: values =>
    let progress := Template.run .program template values
    say progress.output
    for text in progress.warnings.reverse do complain text
    match progress.fatal, progress.arguments with
    | some text, _ => complain text
    | none, extra :: _ =>
      unless progress.stopped do
        complain ("warning: ignoring excess arguments, starting with " ++ quotedWord extra)
    | none, [] => pure ()
    return if progress.failed then 1 else 0

/-- How `cat` shows bytes. -/
structure Showing where
  numbers : Bool
  numbersFilled : Bool
  squeezes : Bool
  marksEnds : Bool
  marksTabs : Bool
  marksOthers : Bool

namespace Showing

def mark (s : Showing) (c : Char) : Octets :=
  if c = '\t' then (if s.marksTabs then ['^', 'I'] else ['\t'])
  else if !s.marksOthers then [c]
  else
    let low (n : Nat) : Octets :=
      if n < 32 then ['^', Char.ofNat (n + 64)]
      else if n = 127 then ['^', '?']
      else [Char.ofNat n]
    if c.toNat < 128 then low c.toNat else 'M' :: '-' :: low (c.toNat - 128)

/-- A line with unprinted bytes and its end marked. -/
def text (s : Showing) (whole : Octets) : Octets :=
  let bare := bareLine whole
  let ends := bare.length != whole.length
  let shown :=
    if s.marksEnds && ends && !s.marksOthers && bare.getLast? = some '\r' then
      bare.dropLast.flatMap s.mark ++ ['^', 'M']
    else bare.flatMap s.mark
  shown ++ (if ends then (if s.marksEnds then ['$', '\n'] else ['\n']) else [])

/-- Lines with their numbers. Gives also the next number and whether the last line was empty. -/
def shown (s : Showing) (number : Nat) (afterEmpty : Bool) : List Octets → Octets × Nat × Bool
  | [] => ([], number, afterEmpty)
  | whole :: rest =>
    let isEmpty := whole = ['\n']
    if s.squeezes && isEmpty && afterEmpty then s.shown number true rest
    else
      let counts := (s.numbers && !s.numbersFilled) || (s.numbersFilled && !isEmpty)
      let (later, number', last) := s.shown (if counts then number + 1 else number) isEmpty rest
      let label := if counts then padded 6 true ' ' (decimal number) ++ ['\t'] else []
      (label ++ s.text whole ++ later, number', last)

def isPlain (s : Showing) : Bool :=
  !(s.numbers || s.numbersFilled || s.squeezes || s.marksEnds || s.marksTabs || s.marksOthers)

end Showing

/-- Prints files one after the other, or its input. -/
def cat (args : List Octets) : Act Nat :=
  withOptions
    [⟨'b', "number-nonblank", .nothing⟩, ⟨'n', "number", .nothing⟩,
      ⟨'s', "squeeze-blank", .nothing⟩, ⟨'v', "show-nonprinting", .nothing⟩,
      ⟨'E', "show-ends", .nothing⟩, ⟨'T', "show-tabs", .nothing⟩, ⟨'A', "show-all", .nothing⟩,
      ⟨'e', "", .nothing⟩, ⟨'t', "", .nothing⟩, ⟨'u', "", .nothing⟩] 1 args fun given => do
    let any (keys : List String) : Bool := keys.any given.has
    let s : Showing := {
      numbers := any ["n"], numbersFilled := any ["b"], squeezes := any ["s"]
      marksEnds := any ["A", "e", "E"], marksTabs := any ["A", "t", "T"]
      marksOthers := any ["A", "e", "t", "v"] }
    if ((← get).channel? 1).isNone then
      complainOf "standard output" .badDescriptor
      return 1
    let mut number := 1
    let mut afterEmpty := false
    let mut code := 0
    for path in (if given.operands.isEmpty then [['-']] else given.operands) do
      if ← copiesOutput path then
        complain (shownName path ++ ": input file is output file")
        code := 1
      else
        match ← readOperand path with
        | .error e =>
          complainOf (shownName path) e
          code := 1
        | .ok data =>
          if s.isPlain then say data
          else
            let (text, next, last) := s.shown number afterEmpty (linesOf data)
            say text
            number := next
            afterEmpty := last
    let readsInput : Bool := given.operands.isEmpty || given.operands.contains ['-']
    if readsInput && ((← get).channel? 0).isNone then
      complainOf "closing standard input" .badDescriptor
      code := 1
    return code

end LineShell.Machine.Tools
