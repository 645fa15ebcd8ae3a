/-
**The help text of a command.**

A help text says what a command does, how it is called, and what can be said to it: the commands of
a group, the values and the options.  In short, every explanation stands beside what it explains, in
a column; in full, the values and options have their explanations below them.

Options are listed by their number within the command; those that hold for every command have
numbers of their own, and stand among the others.

Main definitions: `Coffer.Command.Verb.help` — the help text of a command.
-/

import Coffer.Command.Verb
import Coffer.Text.Layout

set_option autoImplicit false

namespace Coffer.Command

/-! ### Entries -/

/-- Something that is explained. -/
structure HelpEntry where
  /-- What stands at the left of the name. -/
  lead : String
  name : String
  /-- What it does, in paragraphs. -/
  about : List String
  deriving DecidableEq

namespace HelpEntry

/-- The entry on one line, the names being `width` characters wide. -/
def beside (width : Nat) (e : HelpEntry) : String :=
  "  " ++ e.lead ++ Text.padRight (width + 2) e.name ++ String.intercalate " " e.about

/-- The entry with its explanation below it. -/
def below (e : HelpEntry) : String :=
  let margin := "          "
  -- the line between two paragraphs has the margin as well
  "  " ++ e.lead ++ e.name ++ "\n" ++ margin
    ++ String.intercalate ("\n" ++ margin ++ "\n" ++ margin) e.about

/-- A list of entries under a title, if there are any. -/
def section? (title : String) (full : Bool) : List HelpEntry → Option String
  | [] => none
  | es =>
    let width := (es.map fun e => e.name.length).foldl max 2
    some (title ++ ":\n" ++
      if full then String.intercalate "\n\n" (es.map below)
      else String.intercalate "\n" (es.map (beside width)))

end HelpEntry

/-- A name that stands for a value. -/
def valueName (name : String) : String := name.map Char.toUpper

/-- A value of a command as it is written: in angle brackets if it must be given. -/
def Place.mark (p : Place) : String :=
  if p.required then "<" ++ valueName p.name ++ ">" else "[" ++ valueName p.name ++ "]"

/-- The entry of a value. -/
def Place.entry (p : Place) : HelpEntry := ⟨"", p.mark, [p.about]⟩

namespace Flag

/-- An option with its value as it is written. -/
def mark (f : Flag) : String :=
  "--" ++ f.name ++ if f.valueKind?.isSome then " <" ++ valueName f.name ++ ">" else ""

/-- What an option does; the one that asks for the help text tells of the other help text. -/
def explanation (full : Bool) (f : Flag) : List String :=
  (if f.kind = .help then
      [f.about ++ if full then " (see a summary with '-h')" else " (see more with '--help')"]
    else f.about :: if full then f.further.toList else [])
    ++ (f.default.map fun d => "[default: " ++ d ++ "]").toList

/-- The entry of an option. -/
def entry (full : Bool) (f : Flag) : HelpEntry :=
  ⟨match f.letter with
    | some c => "-" ++ String.singleton c ++ ", "
    | none => "    ", f.mark, f.explanation full⟩

/-- The text by which options of the same number are ordered: the letter before the name, and a
small letter before a capital one. -/
def sortText (f : Flag) : String :=
  match f.letter with
  | some c => String.ofList [c.toLower, if c.isUpper then '1' else '0']
  | none => f.name

end Flag

/-! ### Commands -/

namespace Verb

/-- The words that name a command. -/
def words (v : Verb) : List String :=
  ((root.children.flatMap fun c =>
    ([c.1], c.2) :: c.2.children.map fun d => ([c.1, d.1], d.2)).find?
      (·.2 == v)).elim [] Prod.fst

/-- How a command is called by name. -/
def fullName (v : Verb) : String := String.intercalate " " ("cinch" :: v.words)

/-- The options in the order in which they are listed. -/
def listedFlags (v : Verb) : List Flag :=
  let numbered := v.ownFlags.zipIdx ++ commonFlags.zipIdx
  let inOrder := numbered.mergeSort fun a b =>
    decide (a.2 < b.2) || (a.2 == b.2 && decide (a.1.sortText ≤ b.1.sortText))
  inOrder.map Prod.fst ++ v.askingFlags

/-- The line that shows how a command is called. -/
def usage (v : Verb) : String :=
  let child := if !v.isGroup then [] else [if v.needsChild then "<COMMAND>" else "[COMMAND]"]
  "Usage: " ++ String.intercalate " " ([v.fullName, "[OPTIONS]"]
    ++ (v.ownFlags.filter Flag.required).map Flag.mark ++ v.places.map Place.mark ++ child)

/-- What the word `help` does in a group. -/
def helpAbout : String := "Print this message or the help of the given subcommand(s)"

/-- The entries of the commands of a group. -/
def childEntries (v : Verb) : List HelpEntry :=
  if v.isGroup then
    (v.children.map fun c => ⟨"", c.1, [c.2.about]⟩) ++ [⟨"", "help", [helpAbout]⟩]
  else []

/-- The parts of a help text, with a blank line between them. -/
def helpParts (parts : List String) : String := String.intercalate "\n\n" parts ++ "\n"

/-- **The help text of a command,** in full or in short. -/
def help (v : Verb) (full : Bool) : String :=
  helpParts ([v.about, v.usage]
    ++ [HelpEntry.section? "Commands" false v.childEntries,
        HelpEntry.section? "Arguments" full (v.places.map Place.entry),
        HelpEntry.section? "Options" full (v.listedFlags.map (Flag.entry full))].filterMap id)

/-- The help text of the word `help` in a group. -/
def helpOfHelp (v : Verb) : String :=
  helpParts ([helpAbout, "Usage: " ++ v.fullName ++ " help [COMMAND]..."]
    ++ (HelpEntry.section? "Arguments" false
        [⟨"", "[COMMAND]...", ["Print help for the subcommand(s)"]⟩]).toList)

end Verb

end Coffer.Command
