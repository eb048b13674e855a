import PackageIndex.Enqueue
import PackageIndex.Launch
import Std.Time.DateTime.Timestamp
/-!
The program. With `enqueue` as its first argument it queues paths; otherwise it launches
the scheduler and ticks until it is stopped. Stores live as long as the program, and
nothing is sent over a network.
-/
namespace PackageIndex.Program

/-- Takes over from the files what a path leads through, from a place by names. -/
def probe (d : Disk) : List String → List String → IO Disk
  | _, [] => pure d
  | here, name :: rest => do
    let place :=
      if name = "" ∨ name = "." then here
      else if name = ".." then here.dropLast
      else here ++ [name]
    let file := (← IO.currentDir) / Disk.pathOf place
    if ← file.isDir then probe (d.put place .directory) place rest
    else if ← file.pathExists then probe (d.put place (.file (← IO.FS.readBinFile file))) place rest
    else probe d place rest

def probePath (d : Disk) (path : String) : IO Disk := probe d (d.start path) (Disk.names path)

/-- The disk as far as the values of a command line lead. -/
def diskFor (kinds : List (String × CommandLine.Kind)) (args : List String) : IO Disk := do
  let working := Disk.names (← IO.currentDir).toString |>.filter (· ≠ "")
  let disk ← probe { working } [] working
  (CommandLine.items kinds args).foldlM
    (fun d item => match item with
      | .option _ value => probePath d value
      | _ => pure d)
    disk

def now : IO Instant := do
  let t ← Std.Time.Timestamp.now
  pure (Instant.ofNanos t.toNanosecondsSinceUnixEpoch.val)

def fail (message : String) : IO UInt32 := do
  IO.eprintln ("Error: " ++ message)
  pure 1

def enqueue (args : List String) : IO UInt32 := do
  let disk ← diskFor Enqueue.Arguments.kinds args
  let clock ← now
  let (outcome, _) := Enqueue.run (fun _ => none) (fun _ => clock) args disk
  match outcome with
  | .finished report =>
    IO.eprint report.complaints
    IO.print report.output
  | outcome =>
    if let some message := outcome.message? then
      let _ ← fail message
  pure outcome.code.toUInt32

/-- Ticks at the scheduler's period. -/
def serve (ready : Launch.Ready) : IO UInt32 := do
  let mut scheduler := ready.scheduler
  let mut world := Scheduler.recover (fun _ => none) ready.world
  let pause := (scheduler.tickPeriod.nanos / 1000000).toUInt32
  repeat
    world := { world with clock := ← now }
    let (next, _, after) := scheduler.tick (fun _ _ => none) world.clock world
    scheduler := next
    world := after
    IO.sleep pause
  pure 0

def launch (args : List String) : IO UInt32 := do
  let disk ← diskFor Launch.Arguments.kinds args
  let disk ← match Launch.namedDirectory? disk args with
    | some path => probePath disk path
    | none => pure disk
  match (Launch.run Http.closed (← now) args disk).1 with
  | .stopped why => pure why.code.toUInt32
  | .failed e => fail e.headline
  | .ready ready => serve ready

end PackageIndex.Program

def main : List String → IO UInt32
  | "enqueue" :: args => PackageIndex.Program.enqueue args
  | args => PackageIndex.Program.launch args
