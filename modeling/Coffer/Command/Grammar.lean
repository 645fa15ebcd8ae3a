/-
**The words of the command line.**

After the name of a command come the values that it asks for in order, and in between its options:
`--name value`, `--name=value`, or for some of them a letter, as in `-l 5`, `-l5` and `-vl5`.  The
options that hold for every command may stand anywhere.  After a lone `--` everything is a value.

Reading goes through the arguments one by one and stops at the first that cannot be, or that asks
for the help text or the version.

Main definitions:

* `Coffer.Command.Stop`, `Coffer.Command.Subject` — why there is no command to run;
* `Coffer.Command.Level` — what was given to one command;
* `Coffer.Command.Scan`, `Coffer.Command.Scan.step`, `Coffer.Command.scan` — reading the arguments.
-/

import Coffer.Command.Verb

set_option autoImplicit false

namespace Coffer.Command

/-! ### Reading -/

/-- What a help text is about. -/
inductive Subject where
  /-- A command. -/
  | command (v : Verb)
  /-- The word `help` itself, which every group has. -/
  | helpOf (group : Verb)
  deriving DecidableEq, Repr

/-- Why there is no command to run. -/
inductive Stop where
  /-- The arguments are not well formed. -/
  | usage
  /-- A help text is asked for, in full or in short. -/
  | help (subject : Subject) (full : Bool)
  | version
  deriving DecidableEq, Repr

/-- What was given to one command. -/
structure Level where
  verb : Verb
  /-- The options with their values, a switch with the empty text, the last one first. -/
  given : List (String × String)
  /-- The values without a name, the last one first. -/
  places : List String
  deriving DecidableEq

/-- The start of a command. -/
def Level.start (v : Verb) : Level := ⟨v, [], []⟩

/-- Takes in a value of an option. -/
def Level.give (l : Level) (f : Flag) (value : String) : Except Stop Level :=
  -- only the options of one level count: a group and its command may both have the option
  if f.kind ≠ .texts ∧ l.given.any (·.1 == f.name) then .error .usage
  else if f.valueKind?.all (·.accepts value) then .ok { l with given := (f.name, value) :: l.given }
  else .error .usage

/-- Takes in a value without a name. -/
def Level.place (l : Level) (value : String) : Except Stop Level :=
  match l.verb.places[l.places.length]? with
  | some p =>
      if p.kind.accepts value then .ok { l with places := value :: l.places } else .error .usage
  | none => .error .usage

/-- How far the arguments have been read. -/
structure Scan where
  /-- The groups that have been passed, the innermost first. -/
  outer : List Level
  level : Level
  /-- The option whose value comes next. -/
  awaited : Option Flag
  /-- Whether a lone `--` has been passed. -/
  valuesOnly : Bool
  /-- What the word `help` asks about, after which only names of commands may come. -/
  topic : Option Subject
  deriving DecidableEq

namespace Scan

/-- Before the first argument. -/
def start : Scan := ⟨[], .start .root, none, false, none⟩

/-- Takes in a value without a name. -/
def place (s : Scan) (value : String) : Except Stop Scan := do
  return { s with level := ← s.level.place value }

/-- Takes in the value of an option. -/
def giveValue (s : Scan) (f : Flag) (value : String) : Except Stop Scan := do
  return { s with level := ← s.level.give f value, awaited := none }

/-- Takes in an option that stands alone, given by its name or by its letter. -/
def giveAlone (s : Scan) (byName : Bool) (f : Flag) : Except Stop Scan :=
  match f.kind with
  | .switch => s.giveValue f ""
  | .help => .error (.help (.command s.level.verb) byName)
  | .version => .error .version
  | .value _ | .texts | .anyValue _ => .ok { s with awaited := some f }

/-- Takes in an option by its name, and a value if one is attached to it. -/
def named (s : Scan) (name : String) (attached : Option String) : Except Stop Scan :=
  match s.level.verb.flags.find? (·.name == name) with
  | none => .error .usage
  | some f =>
    match attached with
    | none => s.giveAlone true f
    | some value => if f.valueKind?.isSome then s.giveValue f value else .error .usage

/-- Takes in a run of letters: switches, and last perhaps an option with its value. -/
def letters (s : Scan) : List Char → Except Stop Scan
  | [] => .ok s
  | c :: rest =>
    match s.level.verb.flags.find? (·.letter == some c) with
    | none => .error .usage
    | some f =>
      if f.valueKind?.isSome then
        match rest with
        | [] => s.giveAlone false f
        -- what is left of the letters is the value, with or without a sign of equality
        | '=' :: value => s.giveValue f (String.ofList value)
        | value => s.giveValue f (String.ofList value)
      else do letters (← s.giveAlone false f) rest

/-- Splits the name of an option from the value that is attached to it. -/
def splitName (text : List Char) : String × Option String :=
  let name := text.takeWhile (· != '=')
  (String.ofList name,
    match text.drop name.length with
    | _ :: value => some (String.ofList value)
    | [] => none)

/-- Takes in the name of a command, or a value without a name. -/
def word (s : Scan) (arg : String) : Except Stop Scan :=
  match s.level.verb.child? arg with
  | some v => .ok { s with outer := s.level :: s.outer, level := .start v }
  | none =>
    if s.level.verb.isGroup ∧ arg = "help" then
      .ok { s with topic := some (.command s.level.verb) }
    else s.place arg

/-- Takes in the name of a command that is to be explained. -/
def goOn (s : Scan) (arg : String) : Subject → Except Stop Scan
  | .helpOf _ => .error .usage
  | .command v =>
    match v.child? arg with
    | some v => .ok { s with topic := some (.command v) }
    | none =>
      if v.isGroup ∧ arg = "help" then .ok { s with topic := some (.helpOf v) } else .error .usage

/-- Whether an argument looks like an option. -/
def looksLikeFlag : List Char → Bool
  | '-' :: _ :: _ => true
  | _ => false

/-- Takes in one argument where there may be options. -/
def option (s : Scan) (arg : String) : Except Stop Scan :=
  match arg.toList with
  | '-' :: '-' :: [] => .ok { s with valuesOnly := true }
  | '-' :: '-' :: text => let (name, attached) := splitName text; s.named name attached
  -- a lone hyphen is a word
  | '-' :: c :: rest => s.letters (c :: rest)
  | _ => s.word arg

/-- Takes in the value of an option, which looks like an option itself only if it may. -/
def awaitedValue (s : Scan) (f : Flag) (arg : String) : Except Stop Scan :=
  match f.kind with
  | .anyValue _ => s.giveValue f arg
  | _ => if looksLikeFlag arg.toList then .error .usage else s.giveValue f arg

/-- **Takes in one argument.** -/
def step (s : Scan) (arg : String) : Except Stop Scan :=
  match s.topic, s.awaited with
  | some subject, _ => s.goOn arg subject
  | none, some f => s.awaitedValue f arg
  | none, none => if s.valuesOnly then s.place arg else s.option arg

/-- The levels that were passed, the innermost first, once all arguments are read. -/
def finish (s : Scan) : Except Stop (Level × List Level) :=
  match s.topic with
  | some subject => .error (.help subject true)
  | none => if s.awaited.isSome then .error .usage else .ok (s.level, s.outer)

end Scan

/-- **Reads the arguments:** what was given to the command, and to the groups around it. -/
def scan (args : List String) : Except Stop (Level × List Level) := do
  (← args.foldlM Scan.step Scan.start).finish

end Coffer.Command
