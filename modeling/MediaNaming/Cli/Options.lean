import MediaNaming.Cli.Help
import MediaNaming.Text.Digit
import MediaNaming.Text.Quoted
/-!
# Options on a command line

A command line is a list of words. Some of them are options, and some of the options take a
value: the next word, or the text behind an equals sign. The name of a long option may be cut
short as long as it stays clear which one is meant. The other words are arguments, and behind
two hyphens every word is one. `Grammar.scan` sorts the words; what the options mean is left to
the caller.
-/

namespace MediaNaming.Cli

/-- Why a command line is not carried out. -/
inductive Stop where
  /-- The words are wrong. -/
  | usage (program message : String)
  /-- The lines of the help are to be shown. -/
  | help (lines : List String)
  | version
  deriving DecidableEq, Repr

/-- The value of an option on a command line. Two hyphens behind an equals sign stand for no
value. -/
inductive OptionValue where
  | text (s : String)
  | nothing
  deriving DecidableEq, Repr

namespace OptionValue

/-- The value that a word is. -/
def ofWord (s : String) : OptionValue :=
  if s = "--" then nothing else text s

/-- The text of a value. -/
def text? : OptionValue → Option String
  | text s => some s
  | nothing => none

/-- A value in messages. -/
def shown : OptionValue → String
  | text s => Text.quoted s
  | nothing => "[]"

end OptionValue

/-- An option as it is found in a word. -/
structure Found where
  /-- The option; none if there is no such option. -/
  option : Option OptionSpec
  /-- The text that belongs to the same word. -/
  value : Option String
  deriving Repr

/-- What a word is. -/
inductive Role where
  | argument
  /-- Two hyphens. -/
  | separator
  | option (f : Found)
  deriving Repr

/-- A word with its role. -/
structure Word where
  text : String
  role : Role
  deriving Repr

namespace Word

/-- Whether a word is an option. -/
def isOption (w : Word) : Bool :=
  match w.role with
  | .option _ => true
  | _ => false

/-- Whether a word is an argument. -/
def isArgument (w : Word) : Bool :=
  match w.role with
  | .argument => true
  | _ => false

end Word

/-- A text cut at its first equals sign. -/
def cutAtEquals (cs : List Char) : List Char × Option (List Char) :=
  match cs.dropWhile (· ≠ '=') with
  | [] => (cs, none)
  | _ :: rest => (cs.takeWhile (· ≠ '='), some rest)

/-- Whether a word writes a negative number: digits, or a point with digits behind it. -/
def isNegativeNumber (cs : List Char) : Bool :=
  match cs with
  | '-' :: rest =>
    let body := if rest.getLast? = some '\n' then rest.dropLast else rest
    match body.dropWhile Text.isDecimal with
    | [] => !body.isEmpty
    | '.' :: fraction => !fraction.isEmpty && fraction.all Text.isDecimal
    | _ => false
  | _ => false

namespace Grammar

/-- Every name of an option, with the option. -/
def names (g : Grammar) : List (String × OptionSpec) :=
  g.options.flatMap fun o => o.names.map fun n => (n, o)

/-- The options that a word with two hyphens in front may mean. -/
def longMatches (g : Grammar) (cs : List Char) : List (String × Found) :=
  let (front, value) := cutAtEquals cs
  g.names.filterMap fun (name, o) =>
    if front.isPrefixOf name.toList then
      some (name, ⟨some o, value.map String.ofList⟩)
    else none

/-- The options that a word with one hyphen in front may mean. Behind the letter of an option
its value follows. -/
def shortMatches (g : Grammar) (cs : List Char) : List (String × Found) :=
  g.names.filterMap fun (name, o) =>
    if name.toList = cs.take 2 then
      some (name, ⟨some o, some (String.ofList (cs.drop 2))⟩)
    else if cs.isPrefixOf name.toList then some (name, ⟨some o, none⟩)
    else none

/-- The options that a word may mean. -/
def candidates (g : Grammar) (cs : List Char) : List (String × Found) :=
  match cs with
  | '-' :: '-' :: _ => g.longMatches cs
  | _ => g.shortMatches cs

/-- The option that a word names in full. -/
def named? (g : Grammar) (cs : List Char) : Option Found :=
  match g.names.lookup (String.ofList cs) with
  | some o => some ⟨some o, none⟩
  | none =>
    match cutAtEquals cs with
    | (front, some value) =>
      (g.names.lookup (String.ofList front)).map fun o =>
        ⟨some o, some (String.ofList value)⟩
    | (_, none) => none

/-- The role of a word in front of two hyphens. A word with a blank, and a negative number, are
arguments unless they name an option. -/
def roleOf (g : Grammar) (s : String) : Except Stop Role :=
  match s.toList with
  | '-' :: rest =>
    let cs := '-' :: rest
    if rest.isEmpty then .ok .argument
    else
      match g.named? cs with
      | some f => .ok (.option f)
      | none =>
        match g.candidates cs with
        | [(_, f)] => .ok (.option f)
        | [] =>
          if isNegativeNumber cs || cs.contains ' ' then .ok .argument
          else .ok (.option ⟨none, none⟩)
        | several =>
          .error (.usage g.program
            ("ambiguous option: " ++ s ++ " could match " ++
              Text.joined ", " (several.map (·.1))))
  | _ => .ok .argument

/-- The roles of all words. -/
def roles (g : Grammar) : List String → Except Stop (List Word)
  | [] => .ok []
  | s :: rest =>
    if s = "--" then
      .ok (⟨s, .separator⟩ :: rest.map fun t => ⟨t, .argument⟩)
    else do
      let role ← g.roleOf s
      return ⟨s, role⟩ :: (← g.roles rest)

/-- The number of words in front that the arguments take, if they can be taken here. -/
def positionalCount? (g : Grammar) (ws : List Word) : Option Nat :=
  match g.positional with
  | .words =>
    let front := ws.takeWhile fun w => !w.isOption
    if front.any Word.isArgument then some front.length else none
  | .command =>
    let rest := ws.dropWhile fun w => !w.isOption && !w.isArgument
    if (rest.head?.map Word.isArgument).getD false then some ws.length else none

/-- What has been found on a command line. -/
structure Scan where
  /-- The options in order, with their values. -/
  given : List (OptionSpec × OptionValue)
  /-- The words of the arguments. -/
  arguments : Option (List String)
  /-- Words that have no meaning. -/
  extras : List String

/-- Complains about an option. -/
def complain {α : Type} (g : Grammar) (o : OptionSpec) (problem : String) : Except Stop α :=
  .error (.usage g.program ("argument " ++ o.title ++ ": " ++ problem))

/-- Adds an option, unless it ends the command. -/
def take (g : Grammar) (o : OptionSpec) (value : String) (s : Scan) : Except Stop Scan :=
  match o.kind with
  | .help => .error (.help g.helpLines)
  | .version => .error .version
  | _ => .ok { s with given := s.given ++ [(o, .ofWord value)] }

/-- Takes an option that is a word of its own, with its value from the words behind it. -/
def takeAlone (g : Grammar) (o : OptionSpec) (rest : List Word) (s : Scan) :
    Except Stop (Scan × List Word) :=
  match o.kind with
  | .valued =>
    match rest with
    | w :: more =>
      if w.isArgument then (g.take o w.text s).map fun s => (s, more)
      else g.complain o "expected one argument"
    | [] => g.complain o "expected one argument"
  | _ => (g.take o "" s).map fun s => (s, rest)

/-- The option of one letter, if there is one. -/
def letter? (g : Grammar) (c : Char) : Option OptionSpec :=
  g.names.lookup (String.ofList ['-', c])

/-- The options of one word: switches, and the last one with the text that belongs to it. -/
structure Cluster where
  switches : List OptionSpec
  last : OptionSpec
  value : Option String

/-- Reads the text behind an option in the same word. It is the option's value; behind the
letter of a switch it holds further letters. -/
def cluster (g : Grammar) (o : OptionSpec) (isShort : Bool) (text : List Char) :
    Except Stop Cluster :=
  if o.kind = .valued then .ok ⟨[], o, some (String.ofList text)⟩
  else
    let ignored : Except Stop Cluster :=
      g.complain o ("ignored explicit argument " ++ Text.quoted (String.ofList text))
    match text with
    | [] => ignored
    | c :: rest =>
      match if isShort then g.letter? c else none with
      | none => ignored
      | some next =>
        if rest.isEmpty then .ok ⟨[o], next, none⟩
        else
          (cluster g next isShort rest).map fun k => { k with switches := o :: k.switches }

/-- Takes the options of a word that holds more text than the name of one. -/
def takeCluster (g : Grammar) (k : Cluster) (rest : List Word) (s : Scan) :
    Except Stop (Scan × List Word) := do
  let s ← k.switches.foldlM (fun s o => g.take o "" s) s
  match k.value with
  | some value => return (← g.take k.last value s, rest)
  | none => g.takeAlone k.last rest s

/-- Takes the option of a word. -/
def takeOption (g : Grammar) (w : Word) (f : Found) (rest : List Word) (s : Scan) :
    Except Stop (Scan × List Word) :=
  match f.option with
  | none => .ok ({ s with extras := s.extras ++ [w.text] }, rest)
  | some o =>
    match f.value with
    | none => g.takeAlone o rest s
    | some value => do
      let isShort := !("--".toList.isPrefixOf w.text.toList)
      g.takeCluster (← g.cluster o isShort value.toList) rest s

/-- Takes the arguments in front, if they are still to be taken and can be. -/
def takeArguments? (g : Grammar) (ws : List Word) (s : Scan) : Option (Scan × List Word) :=
  match s.arguments, g.positionalCount? ws with
  | none, some n =>
    some ({ s with arguments := some ((ws.take n).map (·.text)) }, ws.drop n)
  | _, _ => none

/-- Sorts words with their roles; `fuel` bounds the number of steps. -/
def sortWords (g : Grammar) (fuel : Nat) (ws : List Word) (s : Scan) : Except Stop Scan :=
  match fuel with
  | 0 => .ok s
  | k + 1 =>
    match ws with
    | [] => .ok s
    | w :: rest =>
      match w.role with
      | .option f => do
        let (s, rest) ← g.takeOption w f rest s
        g.sortWords k rest s
      | _ =>
        match g.takeArguments? ws s with
        | some (s, rest) => g.sortWords k rest s
        | none =>
          let (front, rest) := ws.span fun w => !w.isOption
          g.sortWords k rest { s with extras := s.extras ++ front.map (·.text) }

/-- Sorts the words of a command line. -/
def scan (g : Grammar) (argv : List String) : Except Stop Scan := do
  let ws ← g.roles argv
  g.sortWords (ws.length + 1) ws ⟨[], none, []⟩

end Grammar

end MediaNaming.Cli
