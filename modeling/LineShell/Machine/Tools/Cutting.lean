import LineShell.Machine.Tools.Basic

/-!
# Cutting lines

A program that prints chosen bytes or fields of lines. A list of ranges says which.
-/

namespace LineShell.Machine.Tools

/-- Places from a first one to a last one; without a last one they go on. -/
structure Span where
  first : Nat
  last : Option Nat

namespace Span

def contains (s : Span) (place : Nat) : Bool :=
  s.first ≤ place && s.last.all fun last => place ≤ last

/-- Two spans of which the second begins inside the first as one. -/
def join? (s t : Span) : Option Span :=
  match s.last with
  | none => some s
  | some last =>
    if last < t.first then none
    else some { s with last := t.last.map (max last) }

/-- A span and those after it in order, with those joined that share places. -/
def mergedFrom (s : Span) : List Span → List Span
  | [] => [s]
  | t :: rest =>
    match s.join? t with
    | some whole => mergedFrom whole rest
    | none => s :: mergedFrom t rest

/-- Spans in order, with those joined that share places. -/
def merged : List Span → List Span
  | [] => []
  | s :: rest => mergedFrom s rest

/-- The places from some place on that are in none of some spans. -/
def gaps (start : Nat) : List Span → List Span
  | [] => [⟨start, none⟩]
  | s :: rest =>
    let before : List Span := if start < s.first then [⟨start, some (s.first - 1)⟩] else []
    match s.last with
    | none => before
    | some last => before ++ gaps (max start (last + 1)) rest

end Span

/-- What is wrong with a list of ranges. -/
inductive ListFault where
  | twoSigns
  | zero
  | noEnd
  | decreasing
  | tooLarge (digits : Octets)
  | stray (rest : Octets)

def ListFault.text (ofFields : Bool) : ListFault → Octets
  | .twoSigns => if ofFields then "invalid field range" else "invalid byte or character range"
  | .zero =>
    (if ofFields then "fields" else "byte/character positions" : Octets) ++ " are numbered from 1"
  | .noEnd => "invalid range with no endpoint: -"
  | .decreasing => "invalid decreasing range"
  | .tooLarge digits =>
    (if ofFields then "field number " else "byte/character offset " : Octets) ++
      quotedWord digits ++ " is too large"
  | .stray rest =>
    (if ofFields then "invalid field value " else "invalid byte/character position " : Octets) ++
      quotedWord rest

structure RangeReading where
  start : Option Nat := none
  hasSign : Bool := false
  stop : Option Nat := none

def RangeReading.span (r : RangeReading) : Except ListFault Span :=
  if !r.hasSign then
    match r.start with
    | none | some 0 => .error .zero
    | some place => .ok ⟨place, some place⟩
  else
    let first := r.start.getD 1
    match r.stop with
    | none => if r.start.isNone then .error .noEnd else .ok ⟨first, none⟩
    | some last => if last < first then .error .decreasing else .ok ⟨first, some last⟩

def spansFrom : (fuel : Nat) → RangeReading → Octets → Except ListFault (List Span)
  | 0, _, _ => .ok []
  | fuel + 1, r, text =>
    match text with
    | [] => r.span.map ([·])
    | '-' :: rest =>
      if r.hasSign then .error .twoSigns
      else if r.start = some 0 then .error .zero
      else spansFrom fuel { r with hasSign := true } rest
    | c :: rest =>
      if c = ',' || c = ' ' || c = '\t' then do
        let span ← r.span
        return span :: (← spansFrom fuel {} rest)
      else
        let digits := (c :: rest).takeWhile Char.isDigit
        let number := numberIn 10 digits
        if digits.isEmpty then .error (.stray text)
        else if Nat.pow 2 64 - 1 ≤ number then .error (.tooLarge digits)
        else
          let rest := text.drop digits.length
          if r.hasSign then spansFrom fuel { r with stop := some number } rest
          else spansFrom fuel { r with start := some number } rest

/-- The spans of a list of ranges, in order and apart from each other. -/
def spansOf (text : Octets) : Except ListFault (List Span) :=
  (spansFrom (text.length + 1) {} text).map fun spans =>
    Span.merged (spans.mergeSort fun s t => s.first ≤ t.first)

structure Cutting where
  spans : List Span
  ofFields : Bool
  separator : Char
  /-- What stands between the parts that are printed, if it was said. -/
  between : Option Octets
  dropsWhole : Bool
  mark : Char

namespace Cutting

/-- The members of a list at chosen places, those of each span together. -/
def chosen {α : Type} (c : Cutting) (parts : List α) : List (List α) :=
  let placed := parts.zipIdx 1
  (c.spans.map fun s => (placed.filter fun (_, place) => s.contains place).map (·.1)).filter
    fun group => !group.isEmpty

def shown (c : Cutting) (text : Octets) : Octets :=
  let ended (text : Octets) : Octets := text ++ [c.mark]
  if !c.ofFields then
    match c.between with
    | some between => ended (joined between (c.chosen text))
    | none => ended (c.chosen text).flatten
  else if !text.contains c.separator then (if c.dropsWhole then [] else ended text)
  else
    ended (joined (c.between.getD [c.separator]) (c.chosen (text.splitOn c.separator)).flatten)

def ofGiven (given : Given) : Except Octets Cutting := do
  let lists := given.set_.filter fun (key, _) => key = "b" || key = "c" || key = "f"
  if 1 < lists.length then throw ("only one list may be specified" : Octets)
  let separator : Octets := (given.value? "d").getD ['\t']
  if (given.values "d").any fun text => 1 < text.length then
    throw ("the delimiter must be a single character" : Octets)
  match lists with
  | [(key, some list)] =>
    let ofFields : Bool := key = "f"
    if !ofFields && given.has "d" then
      throw ("an input delimiter may be specified only when operating on fields" : Octets)
    if !ofFields && given.has "s" then
      throw ("suppressing non-delimited lines makes sense\n" ++
        "\tonly when operating on fields" : Octets)
    match spansOf list with
    | .error fault => throw (fault.text ofFields)
    | .ok spans =>
      let zeroIfEmpty (text : Octets) : Octets := if text.isEmpty then ['\x00'] else text
      return {
        spans := if given.has "complement" then Span.gaps 1 spans else spans
        ofFields, separator := separator.headD '\x00'
        between := (given.value? "output-delimiter").map zeroIfEmpty
        dropsWhole := given.has "s", mark := if given.has "z" then '\x00' else '\n' }
  | _ => throw ("you must specify a list of bytes, characters, or fields" : Octets)

end Cutting

def cut (args : List Octets) : Act Nat :=
  withOptions
    [⟨'b', "bytes", .value⟩, ⟨'c', "characters", .value⟩, ⟨'f', "fields", .value⟩,
      ⟨'d', "delimiter", .value⟩, ⟨'s', "only-delimited", .nothing⟩, ⟨'n', "", .nothing⟩,
      ⟨' ', "complement", .nothing⟩, ⟨' ', "output-delimiter", .value⟩,
      ⟨'z', "zero-terminated", .nothing⟩] 1 args fun given =>
    match Cutting.ofGiven given with
    | .error text => misuse 1 text
    | .ok c => readAll given.operands fun _ data => do
      say ((endedBy c.mark data).flatMap fun text => c.shown (withoutEnd c.mark text))
      return 0

end LineShell.Machine.Tools
