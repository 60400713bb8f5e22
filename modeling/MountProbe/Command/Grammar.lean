import MountProbe.Command.Usage
import MountProbe.Path
import MountProbe.Text.Numeral

/-! The command line. A command has options and subcommands; options that every command has may
stand before or after the subcommand, and the last place counts. An option takes its value from the
same word, after "=", or from the next word. Words after "--" are no options. -/
namespace MountProbe.Command

inductive Place where
  | root
  | scrape
  | mounts
  | watch
  | config
  | configPath
  | configShow
  | configValidate
  | completions
deriving DecidableEq, Inhabited, Repr

inductive Slot where
  | config
  | json
  | noColor
  | verbose
  | quiet
  | help
  | version
  | table
  | intervalMs
  | output
  | count
  /-- The one word that is no option: the shell to write completions for. -/
  | shell
deriving DecidableEq, Inhabited, Repr

inductive Shell where
  | bash
  | elvish
  | fish
  | powershell
  | zsh
deriving DecidableEq, Inhabited, Repr

def Shell.name : Shell → String
  | bash => "bash"
  | elvish => "elvish"
  | fish => "fish"
  | powershell => "powershell"
  | zsh => "zsh"

def Shell.all : List Shell := [bash, elvish, fish, powershell, zsh]

inductive Value where
  | set
  | path (p : Path)
  | number (n : Nat)
  | shell (s : Shell)
deriving DecidableEq, Inhabited, Repr

namespace Slot

def long? : Slot → Option String
  | config => some "config"
  | json => some "json"
  | noColor => some "no-color"
  | verbose => some "verbose"
  | quiet => some "quiet"
  | help => some "help"
  | version => some "version"
  | table => some "table"
  | intervalMs => some "interval-ms"
  | output => some "output"
  | count => some "count"
  | shell => none

def short? : Slot → Option Char
  | verbose => some 'v'
  | quiet => some 'q'
  | help => some 'h'
  | version => some 'V'
  | _ => none

def takesValue : Slot → Bool
  | config | intervalMs | output | count | shell => true
  | _ => false

def readPath (raw : Bytes) : Except Usage Value :=
  if raw.isEmpty then .error .invalidValue else .ok (.path ⟨raw⟩)

def readNumber (raw : Bytes) : Except Usage Value :=
  match raw.text? with
  | none => .error .invalidUtf8
  | some s =>
    match Text.readNumeral Text.maxWord64 s with
    | .ok n => if n = 0 then .error .valueValidation else .ok (.number n)
    | .error _ => .error .valueValidation

def readShell (raw : Bytes) : Except Usage Value :=
  match raw.text? with
  | none => .error .invalidUtf8
  | some s =>
    match Shell.all.find? fun known => known.name = s with
    | some known => .ok (.shell known)
    | none => .error .invalidValue

def read : Slot → Bytes → Except Usage Value
  | config, raw | output, raw => readPath raw
  | intervalMs, raw | count, raw => readNumber raw
  | shell, raw => readShell raw
  | _, _ => .ok .set

end Slot

namespace Place

def common : List Slot :=
  [.config, .json, .noColor, .verbose, .quiet, .help]

def slots : Place → List Slot
  | root => common ++ [.version]
  | scrape => common ++ [.table]
  | watch => common ++ [.intervalMs, .output, .count]
  | _ => common

def children : Place → List (String × Place)
  | root =>
    [("scrape", scrape), ("mounts", mounts), ("watch", watch), ("config", config),
      ("completions", completions)]
  | config => [("path", configPath), ("show", configShow), ("validate", configValidate)]
  | _ => []

def child? (p : Place) (name : String) : Option Place :=
  (p.children.find? fun c => c.1 = name).map Prod.snd

def isHelpWord (p : Place) (name : String) : Bool :=
  !p.children.isEmpty && name = "help"

def knows (p : Place) (name : String) : Bool :=
  (p.child? name).isSome || p.isHelpWord name

def long? (p : Place) (name : String) : Option Slot :=
  p.slots.find? fun s => s.long? = some name

def short? (p : Place) (c : Char) : Option Slot :=
  p.slots.find? fun s => s.short? = some c

end Place

/-- What a command was given: the values so far, latest first, and a slot that has a word to be
read, or waits for one. -/
structure Given where
  values : List (Slot × Value)
  opened : Option (Slot × Option Bytes)
  escaped : Bool
deriving Inhabited

namespace Given

def nothing : Given := ⟨[], none, false⟩

def has (g : Given) (s : Slot) : Bool :=
  g.values.any fun v => v.1 = s

def waiting? (g : Given) : Option Slot :=
  match g.escaped, g.opened with
  | false, some (s, none) => some s
  | _, _ => none

def takesWord (g : Given) (p : Place) : Bool :=
  p = .completions && !g.has .shell && (g.opened.map Prod.fst) ≠ some .shell

def put (g : Given) (s : Slot) (raw : Bytes) : Except Usage Given := do
  if g.has s then throw .argumentConflict
  let v ← s.read raw
  return { g with values := (s, v) :: g.values }

def settle (g : Given) : Except Usage Given :=
  match g.opened with
  | none => .ok g
  | some (_, none) => .error .invalidValue
  | some (s, some raw) => { g with opened := none }.put s raw

/-- A flag is set; help and version end the command line. -/
def setFlag (g : Given) (s : Slot) : Except Usage Given := do
  let g ← g.settle
  match s with
  | .help => throw .displayHelp
  | .version => throw .displayVersion
  | _ => g.put s []

def setValue (g : Given) (s : Slot) (raw : Bytes) : Except Usage Given := do
  (← g.settle).put s raw

def expect (g : Given) (s : Slot) : Except Usage Given := do
  return { ← g.settle with opened := some (s, none) }

def takeLong (g : Given) (p : Place) (name : Bytes) (value : Option Bytes) : Except Usage Given :=
  match name.text?.bind p.long? with
  | none => .error .unknownArgument
  | some s =>
    match value with
    | some raw => if s.takesValue then g.setValue s raw else .error .tooManyValues
    | none => if s.takesValue then g.expect s else g.setFlag s

/-- Letters after one dash; each is a flag. -/
def takeShort (p : Place) : Given → List Char → Except Usage Given
  | g, [] => .ok g
  | g, c :: rest => do
    match p.short? c with
    | none => throw .unknownArgument
    | some s => takeShort p (← g.setFlag s) rest

end Given

def textStart (raw : Bytes) : List Char × Bool :=
  match Text.decode? raw with
  | some cs => (cs, true)
  | none => (raw.lossy.toList.takeWhile fun c => c.toNat ≠ 0xFFFD, false)

inductive Word where
  | escape
  | long (name : Bytes) (value : Option Bytes)
  | short (raw : Bytes)
  | plain
deriving DecidableEq, Repr

def dash : UInt8 := 0x2D

def equals : UInt8 := 0x3D

def splitAtEquals (raw : Bytes) : Bytes × Option Bytes :=
  match raw.dropWhile fun b => b ≠ equals with
  | [] => (raw, none)
  | _ :: value => (raw.takeWhile fun b => b ≠ equals, some value)

def Word.of : Bytes → Word
  | [] => .plain
  | [_] => .plain
  | a :: b :: rest =>
    if a = dash then
      if b = dash then
        if rest.isEmpty then .escape
        else
          let (name, value) := splitAtEquals rest
          .long name value
      else .short (b :: rest)
    else .plain

/-- Help on the commands below: every word has to be one. -/
def helpOn : Place → List Bytes → Usage
  | _, [] => .displayHelp
  | p, raw :: rest =>
    match raw.text? with
    | none => .invalidSubcommand
    | some name =>
      match p.child? name with
      | some child => helpOn child rest
      | none => if p.isHelpWord name && rest.isEmpty then .displayHelp else .invalidSubcommand

def strayWord (p : Place) (escaped : Bool) (raw : Bytes) : Usage :=
  if escaped && (raw.text?.any p.knows) then .unknownArgument
  else if p.children.isEmpty then .unknownArgument
  else .invalidSubcommand

/-- What a command was given, checked; the flag says whether a subcommand follows. -/
def close (p : Place) (g : Given) (isFollowed : Bool) : Except Usage Given := do
  let g ← g.settle
  if p = .root && !isFollowed then
    throw (if g.values.isEmpty then .nothingGiven else .missingSubcommand)
  if g.has .verbose && g.has .quiet then throw .argumentConflict
  if p = .completions && !g.has .shell then throw .missingRequiredArgument
  return g

structure Level where
  place : Place
  values : List (Slot × Value)
deriving Inhabited

/-- Reads the words of a command and of those below it: the commands, outermost first. -/
def readLevels (p : Place) (g : Given) : List Bytes → Except Usage (List Level)
  | [] => do
    let g ← close p g false
    return [⟨p, g.values⟩]
  | raw :: rest =>
    let mayNameChild := !g.escaped && g.waiting?.isNone
    let child := if mayNameChild then raw.text?.bind p.child? else none
    match child with
    | some child => do
      let below ← readLevels child .nothing rest
      let g ← close p g true
      return ⟨p, g.values⟩ :: below
    | none =>
      if mayNameChild && raw.text?.any p.isHelpWord then .error (helpOn p rest)
      else
        match (if g.escaped then Word.plain else Word.of raw) with
        | .escape => readLevels p { g with escaped := true } rest
        | .long name value => do
          let g ← g.takeLong p name value
          readLevels p g rest
        | .short letters => do
          let (cs, isText) := textStart letters
          let g ← Given.takeShort p g cs
          if !isText then throw .unknownArgument
          readLevels p g rest
        | .plain =>
          match g.waiting? with
          | some s => readLevels p { g with opened := some (s, some raw) } rest
          | none =>
            if g.takesWord p then do
              let g ← g.settle
              readLevels p { g with opened := some (.shell, some raw) } rest
            else .error (strayWord p g.escaped raw)

structure WatchRequest where
  intervalMs : Option Nat
  output : Option Path
  count : Option Nat
deriving DecidableEq, Inhabited, Repr

inductive Task where
  | scrape (table : Bool)
  | mounts
  | watch (request : WatchRequest)
  | configPath
  | configShow
  | configValidate
  | completions (shell : Shell)
deriving DecidableEq, Inhabited, Repr

structure Invocation where
  config : Option Path
  json : Bool
  noColor : Bool
  verbose : Bool
  quiet : Bool
  task : Task
deriving DecidableEq, Inhabited, Repr

namespace Level

def value? (l : Level) (s : Slot) : Option Value :=
  (l.values.find? fun v => v.1 = s).map Prod.snd

def path? (l : Level) (s : Slot) : Option Path :=
  match l.value? s with
  | some (.path p) => some p
  | _ => none

def number? (l : Level) (s : Slot) : Option Nat :=
  match l.value? s with
  | some (.number n) => some n
  | _ => none

def task (l : Level) : Task :=
  match l.place with
  | .scrape => .scrape (l.value? .table).isSome
  | .mounts => .mounts
  | .watch => .watch ⟨l.number? .intervalMs, l.path? .output, l.number? .count⟩
  | .configShow => .configShow
  | .configValidate => .configValidate
  | .completions =>
    match l.value? .shell with
    | some (.shell s) => .completions s
    | _ => .completions .bash
  | .root | .config | .configPath => .configPath

end Level

def read (args : List Bytes) : Except Usage Invocation := do
  let levels ← readLevels .root .nothing args
  let isSet (s : Slot) : Bool := levels.any fun l => (l.value? s).isSome
  return {
    config := levels.reverse.findSome? fun l => l.path? .config
    json := isSet .json
    noColor := isSet .noColor
    verbose := isSet .verbose
    quiet := isSet .quiet
    task := (levels.getLastD default).task }

end MountProbe.Command
