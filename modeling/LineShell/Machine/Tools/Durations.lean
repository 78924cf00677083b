import LineShell.Machine.Format
import LineShell.Machine.Tools.Basic

/-!
# Durations

Times that texts say. Nobody has to wait for them here.
-/

namespace LineShell.Machine.Tools

/-- Whether a fraction is a time: not below zero, and maybe without an end. -/
def isTime : Fraction → Bool
  | .fraction negative n _ => !negative || n = 0
  | .infinite negative => !negative
  | .undefined _ => false

def isSeconds (text : Octets) : Bool :=
  match Fraction.read? text with
  | some (value, []) => isTime value
  | _ => false

/-- Whether a text says a time, with a letter for its unit or without one. -/
def isDuration (text : Octets) : Bool :=
  isSeconds text || (text.getLast?.any ("smhd".toList.contains ·) && isSeconds text.dropLast)

def sleep (args : List Octets) : Act Nat :=
  withOptions [] 1 args fun given => do
    if given.operands.isEmpty then misuse 1 "missing operand"
    else
      let wrong := given.operands.filter fun text => !isDuration text
      for text in wrong do complain ("invalid time interval " ++ quotedWord text)
      if wrong.isEmpty then return 0
      else
        pointToHelp
        return 1

end LineShell.Machine.Tools
