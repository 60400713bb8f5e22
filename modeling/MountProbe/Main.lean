import MountProbe.Command.Run

namespace MountProbe

def usageLine : String :=
  "Usage: mountguard [OPTIONS] <scrape|mounts|watch|config|completions|help>\n"

def usageText : String :=
  "Timeout-resilient filesystem statistics collector\n\n" ++ usageLine ++
    "\nOptions:\n" ++
    "      --config <PATH>  Override config file path\n" ++
    "      --json           Force JSON output mode\n" ++
    "      --no-color       Disable colored output\n" ++
    "  -v, --verbose        Increase verbosity\n" ++
    "  -q, --quiet          Quiet mode (errors only)\n" ++
    "  -h, --help           Print help\n" ++
    "  -V, --version        Print version\n"

def blankTree : FileTree where
  nodes := #[.dir 0 [] false]
  current := 0

def FileTree.place (t : FileTree) (p : Path) (contents : Bytes) : FileTree :=
  let t :=
    match p.parent? with
    | some above => (t.makeAll above).1
    | none => t
  match t.openFile p with
  | .ok (t, i) => ((t.truncate i).append i contents).toOption.getD t
  | .error _ => t

def fetch (t : FileTree) (p : Path) : IO FileTree := do
  match p.raw.text? with
  | none => return t
  | some name =>
    try
      let contents ← IO.FS.readBinFile name
      return t.place p contents.toList
    catch _ => return t

/-- Brings a file of a tree to the system if it has changed; what was put at its end is put there. -/
def store (before after : FileTree) (p : Path) : IO Unit := do
  match p.raw.text?, after.read p with
  | some name, .ok contents =>
    let old := (before.read p).toOption
    if old = some contents then return
    try
      if let some above := p.parent? then
        if let some dir := above.raw.text? then
          if dir ≠ "" then IO.FS.createDirAll dir
      match old with
      | some start =>
        if start.isPrefixOf contents then
          let h ← IO.FS.Handle.mk name .append
          h.write ⟨(contents.drop start.length).toArray⟩
        else IO.FS.writeBinFile name ⟨contents.toArray⟩
      | none => IO.FS.writeBinFile name ⟨contents.toArray⟩
    catch e => (← IO.getStderr).putStr ("mountguard: " ++ toString e ++ "\n")
  | _, _ => return

def variablesNow : IO Settings.Environment := do
  let mut found : List (String × Bytes) := []
  for name in "MOUNTGUARD_OUTPUT_FORMAT" :: Settings.variableNames do
    if let some value ← IO.getEnv name then found := (name, Text.utf8 value.toList) :: found
  let known := found
  return fun name => (known.find? fun v => v.1 = name).map Prod.snd

def writtenFiles (w : Watch) : List Path :=
  let log := w.settings.paths.jsonlLog
  let old := (List.range (w.settings.logging.maxRotatedFiles + 1)).map fun i =>
    Journal.rotatedName log (i + 1)
  let more := match w.outputFile? with | some p => [p] | none => []
  more ++ log :: Path.ofString "/dev/shm/mountguard.jsonl" :: old

def say (before after : World) : IO Unit := do
  let out ← IO.getStdout
  out.write ⟨(after.output.bytes.drop before.output.bytes.length).toArray⟩
  out.flush
  (← IO.getStderr).putStr (after.scene.errors.drop before.scene.errors.length).toString

partial def follow (s : Command.Setting) (settings : Settings) (began : Nat) (w : Watch) :
    IO Watch := do
  match w.phase with
  | .stopped _ => return w
  | _ =>
    let now := (← IO.monoMsNow) - began
    let timetable := w.world.timetable.sleepUntil (now * ticksPerMs)
    let mut tree := w.world.tree
    for p in [w.settings.paths.configFile, settings.paths.procPath.join (Path.ofString "1/mountinfo"),
        settings.paths.procPath.join (Path.ofString "self/mountinfo")] do
      tree ← fetch tree p
    let world := { w.world with scene := { w.world.scene with tree }, timetable }
    let w := { w with world }
    match w.phase with
    | .rest wake =>
      if now * ticksPerMs < wake then
        IO.sleep (min 50 ((wake - now * ticksPerMs) / ticksPerMs + 1)).toUInt32
    | _ => pure ()
    let next := w.step (s.host settings) s.env
    say w.world next.world
    for p in writtenFiles next do
      store w.world.tree next.world.tree p
    follow s settings began next

/-- The time of day in milliseconds since the start of 1970: what the system says about the running
program is always of this moment. -/
def clockMs : IO Nat := do
  try
    let facts ← ((← IO.currentDir).join "/proc/self/stat").metadata
    return facts.modified.sec.toNat * 1000 + facts.modified.nsec.toNat / 1000000
  catch _ => return 0

def carryOut (inv : Command.Invocation) : IO UInt32 := do
  let isTerminal ← (← IO.getStdout).isTty
  let env ← variablesNow
  let system : Stat.System := fun _ => .error Errno.notSupported
  let began ← IO.monoMsNow
  let s : Command.Setting := ⟨⟨isTerminal, isTerminal⟩, env, system, fun _ => false, ← clockMs,
    fun _ => ""⟩
  let mut tree ← fetch blankTree (inv.config.getD Settings.usual.paths.configFile)
  let settings := (Settings.load inv.config tree.lookup env).toOption.getD .usual
  for p in [settings.paths.procPath.join (Path.ofString "1/mountinfo"),
      settings.paths.procPath.join (Path.ofString "self/mountinfo"), settings.paths.jsonlLog] do
    tree ← fetch tree p
  let world := World.ofTree tree
  match Command.start inv s world with
  | .ended after code =>
    say world after
    return code.toUInt32
  | .watching w quiet =>
    say world w.world
    for p in writtenFiles w do
      store tree w.world.tree p
    let w ← follow s settings began w
    let (after, code) := Command.endWatch w quiet
    say w.world after
    return code.toUInt32

end MountProbe

def main (args : List String) : IO UInt32 := do
  match MountProbe.Command.read (args.map fun a => MountProbe.Text.utf8 a.toList) with
  | .ok inv => MountProbe.carryOut inv
  | .error usage =>
    match usage with
    | .displayHelp => (← IO.getStdout).putStr MountProbe.usageText
    | .displayVersion => (← IO.getStdout).putStr ("mountguard " ++ MountProbe.Watch.version ++ "\n")
    | .nothingGiven => (← IO.getStderr).putStr MountProbe.usageText
    | _ => (← IO.getStderr).putStr ("error: " ++ usage.name ++ "\n\n" ++ MountProbe.usageLine)
    return usage.exitCode.toUInt32
