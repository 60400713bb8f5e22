namespace MountProbe.Command

inductive Usage where
  | displayHelp
  | displayVersion
  | nothingGiven
  | missingSubcommand
  | missingRequiredArgument
  | unknownArgument
  | invalidSubcommand
  /-- A value is missing, empty, or none of those that are allowed. -/
  | invalidValue
  /-- A value does not spell a number in its range. -/
  | valueValidation
  | invalidUtf8
  /-- A value stands at a flag that takes none. -/
  | tooManyValues
  /-- An option is given twice, or two are given that exclude each other. -/
  | argumentConflict
deriving DecidableEq, Inhabited, Repr

namespace Usage

/-- Asking for help or for the version is no error. -/
def exitCode : Usage → Nat
  | displayHelp | displayVersion => 0
  | _ => 2

def name : Usage → String
  | displayHelp => "DisplayHelp"
  | displayVersion => "DisplayVersion"
  | nothingGiven => "DisplayHelpOnMissingArgumentOrSubcommand"
  | missingSubcommand => "MissingSubcommand"
  | missingRequiredArgument => "MissingRequiredArgument"
  | unknownArgument => "UnknownArgument"
  | invalidSubcommand => "InvalidSubcommand"
  | invalidValue => "InvalidValue"
  | valueValidation => "ValueValidation"
  | invalidUtf8 => "InvalidUtf8"
  | tooManyValues => "TooManyValues"
  | argumentConflict => "ArgumentConflict"

end Usage

end MountProbe.Command
