import MountProbe.Journal.Entry
import MountProbe.Json.Reader

namespace MountProbe.Journal

open Json (Written)

/-- The value of a field, if there is one. No field may stand there twice. -/
def field? (name : String) (fields : List (String × Written)) : Option (Option Written) :=
  match fields.filter fun f => f.1 == name with
  | [] => some none
  | [(_, w)] => some (some w)
  | _ => none

def required {α : Type} (name : String) (read : Written → Option α)
    (fields : List (String × Written)) : Option α :=
  match field? name fields with
  | some (some w) => read w
  | _ => none

def allowed {α : Type} (name : String) (read : Written → Option α)
    (fields : List (String × Written)) : Option (Option α) :=
  match field? name fields with
  | none => none
  | some none | some (some .null) => some none
  | some (some w) => (read w).map some

/-- One of a few names: as a text, or as the only field of an object, which is null. -/
def choice? {α : Type} (ofName? : String → Option α) : Written → Option α
  | .object [(name, .null)] => (Json.spelled? name).bind fun cs => ofName? (String.ofList cs)
  | w => w.text?.bind ofName?

namespace Entry

def names : List String :=
  ["ts", "event", "severity", "mount_point", "device", "fs_type", "duration_ms", "records",
    "stuck", "ok", "error_code", "error_message", "details"]

def ofFields? (fields : List (String × Written)) : Option Entry := do
  let time ← required "ts" Written.text? fields
  let kind ← required "event" (choice? Kind.ofName?) fields
  let severity ← required "severity" (choice? Severity.ofName?) fields
  let mountPoint ← allowed "mount_point" Written.text? fields
  let device ← allowed "device" Written.text? fields
  let fsType ← allowed "fs_type" Written.text? fields
  let durationMs ← allowed "duration_ms" (Written.whole? Text.maxWord64) fields
  let records ← allowed "records" (Written.whole? Text.maxWord64) fields
  let stuck ← allowed "stuck" (Written.whole? Text.maxWord64) fields
  let ok ← allowed "ok" Written.bool? fields
  let errorCode ← allowed "error_code" Written.text? fields
  let errorMessage ← allowed "error_message" Written.text? fields
  let details ← allowed "details" Written.text? fields
  return { time, kind, severity, mountPoint, device, fsType, durationMs, records, stuck, ok,
           errorCode, errorMessage, details }

def spelledField? (f : List Json.Glyph × Written) : Option (String × Written) :=
  (Json.spelled? f.1).map fun cs => (String.ofList cs, f.2)

/-- An entry is an object, or a list of all its fields in order. -/
def ofWritten? : Written → Option Entry
  | .object fields =>
    (fields.mapM spelledField?).bind ofFields?
  | .list items => if items.length = names.length then ofFields? (names.zip items) else none
  | _ => none

def read? (line : List Char) : Option Entry :=
  (Json.read? line).bind ofWritten?

end Entry

end MountProbe.Journal
