import PhantomMonitor.Api.MonitorFiles
import PhantomMonitor.Misc.Runs

/-!
# The monitor threads of a session

Between `mf_start` and the return of `mf_end` there is one thread for each metric (`mf_api.c`). The
threads sample and print at their own pace, and `mf_end` clears `running` and joins them.

What a monitor prints stands in the buffer of its stream first. The C library writes a part of it to
the file whenever it likes, and the rest with `fclose`. The files are opened for appending.
-/

namespace PhantomMonitor

open CText

/-- The function of a monitor: what it does before its loop, and one iteration with the lines that
it prints; `none` when the process exits. `exits` says whether it exits when its file cannot be
opened. -/
structure MonitorCode where
  Vars : Type
  Start : Type
  Reading : Type
  exits : Bool
  start : Start → Except Fault (Option Vars)
  iterate : Reading → Vars → Except Fault (Option (Vars × List DataRecord))

/-- Some iterations: the variables after them, and all lines. -/
def MonitorCode.loop (c : MonitorCode) :
    List c.Reading → c.Vars → Except Fault (Option (c.Vars × List DataRecord))
  | [], vars => .ok (some (vars, []))
  | r :: rs, vars => do
      match ← c.iterate r vars with
      | none => return none
      | some (vars, records) =>
          match ← c.loop rs vars with
          | none => return none
          | some (vars, more) => return some (vars, records ++ more)

/-- The function of a monitor with its file open, up to some test of `running`. -/
def MonitorCode.run (c : MonitorCode) (start : c.Start) (rs : List c.Reading) :
    Except Fault (Option (c.Vars × List DataRecord)) := do
  match ← c.start start with
  | none => return none
  | some vars => c.loop rs vars

/-- `resources_monitor` (`resources_monitor.c:13-45`). -/
def resourcesCode : MonitorCode where
  Vars := ResourcesCpu
  Start := ResourcesTurn
  Reading := ResourcesTurn × NotNumbers
  exits := true
  start first := resourcesStatCpu first.pidFile first.cpuFile first.cpuVars
  iterate r before := do
    match ← resourcesStatCpu r.1.pidFile r.1.cpuFile r.1.cpuVars with
    | none => return none
    | some after =>
        match resourcesStatAllAndCalculate r.1.statusFile r.1.meminfoFile r.1.memoryVars before
          after with
        | none => return none
        | some (stats, before) =>
            return some (before, [ResourcesLine.record r.2 ⟨r.1.clock * 1000, stats⟩])

/-- `disk_monitor` (`disk_monitor.c:13-54`). The start has the variable `result` before it is
written. -/
def diskCode (samplingInterval : Int) : MonitorCode where
  Vars := DiskStats
  Start := DiskReading × DiskStats
  Reading := DiskReading × NotNumbers
  exits := false
  start first :=
    let result := { first.2 with readBytesAfter := 0, writeBytesAfter := 0 }
    .ok (some (diskStatsRead first.1.file first.1.buffer result).1)
  iterate r result :=
    let result := (diskStatsRead r.1.file r.1.buffer result).1
    .ok (some (result, [(diskInterval samplingInterval r.1.clock result).record r.2]))

/-- What the power monitor starts with: the descriptor of the perf counter, the first reading, the
variables before they are written, and the open streams. -/
structure PowerStart where
  perfFd : Int
  first : MonitorReading
  before : PidStatsInfo
  after : PidStatsInfo
  streams : Streams

/-- `power_monitor` (`power_monitor.c:14-77`). An iteration without progress of the system's
counters prints nothing. -/
def powerCode (p : Nat → Rat) : MonitorCode where
  Vars := PidStatsInfo × PidStatsInfo × Streams
  Start := PowerStart
  Reading := MonitorReading × NotNumbers
  exits := true
  start s :=
    match s.streams.fopen true with
    | none => .ok none
    | some streams =>
        if s.perfFd ≤ 0 then .ok none
        else
          let (ok, before, streams) := readAndCheck p s.first s.before streams
          if ok ≤ 0 then .ok none else .ok (some (before, s.after, streams))
  iterate r vars :=
    let (ok, after, streams) := readAndCheck p r.1 vars.2.1 vars.2.2
    if ok ≤ 0 then .ok none
    else
      let m := monitorWrite p r.1 ⟨vars.1, after, streams, []⟩
      .ok (some ((m.before, m.after, m.streams), m.lines.map (MonitorLine.record r.2)))

/-- A metric that is not known: the thread ends at once. -/
def idleCode : MonitorCode where
  Vars := Empty
  Start := Empty
  Reading := Empty
  exits := false
  start _ := .ok none
  iterate _ _ := .ok none

/-- `METRIC_NAME_1`, `METRIC_NAME_2` and `METRIC_NAME_3`. -/
def metricName1 : CText := "resources_usage".toList

def metricName2 : CText := "disk_io".toList

def metricName3 : CText := "power".toList

/-- `MonitorStart` (`mf_api.c:266-282`). -/
def monitorStart (p : Nat → Rat) (samplingInterval : Int) (metricName : CText) : MonitorCode :=
  if metricName = metricName1 then resourcesCode
  else if metricName = metricName2 then diskCode samplingInterval
  else if metricName = metricName3 then powerCode p
  else idleCode

/-- The functions of the threads that `mf_start` creates for the metrics `names`. -/
def sessionCodes (p : Nat → Rat) (samplingIntervals : Nat → Int) (names : Nat → CText) (t : Nat) :
    MonitorCode := monitorStart p (samplingIntervals t) (names t)

/-- The data file of a thread, `"%s/%s"`. -/
def dataFile (dataPath : CText) (names : Nat → CText) (t : Nat) : CText :=
  dataPath ++ '/' :: names t

/-! ## The session -/

/-- What a monitor with its file open does next: test `running`, sleep and sample, or close the
file. -/
inductive LoopAt where
  | testing
  | sleeping
  | closing
  deriving DecidableEq, Repr

/-- The thread of a monitor, with its variables and the buffer of its stream. -/
inductive MonitorThread (c : MonitorCode) where
  | entering
  | looping (place : LoopAt) (vars : c.Vars) (buffer : CText)
  | finished

/-- The thread of the user: in `mf_start`, in the user's own code, in `mf_end`, or behind it. An
`mf_start` that could not create its thread `u` has returned `NULL`, and `mf_end` may be called all
the same. -/
inductive UserAt where
  | creating (t : Nat)
  | refused (u : Nat)
  | working
  | joining (t : Nat)
  | joiningRefused (u t : Nat)
  | ended
  deriving DecidableEq, Repr

/-- How many threads there are, of the `count` that `mf_start` is asked for. -/
def UserAt.created (count : Nat) : UserAt → Nat
  | .creating u | .refused u | .joiningRefused u _ => u
  | .working | .joining _ | .ended => count

/-- A session with its files. Nothing moves after the process has exited. -/
structure ApiThreads (codes : Nat → MonitorCode) where
  user : UserAt
  running : Bool
  monitors : (t : Nat) → MonitorThread (codes t)
  files : CText → CText
  exited : Bool

/-- A move of one thread. The user's thread goes on, or its `pthread_create` fails. A monitor enters
its function with its file open or not, goes through the test of its loop or closes its file, or
wakes up and samples; the C library writes some of a buffer. -/
inductive ApiMove (codes : Nat → MonitorCode) where
  | user
  | refuse
  | enter (t : Nat) (opened : Option (codes t).Start)
  | advance (t : Nat)
  | sample (t : Nat) (reading : (codes t).Reading)
  | flush (t : Nat) (count : Nat)

namespace ApiThreads

variable {codes : Nat → MonitorCode}

/-- `mf_start` before the first thread is created; there are `files` on the disk. -/
def start (files : CText → CText) : ApiThreads codes :=
  ⟨.creating 0, true, fun _ => .entering, files, false⟩

/-- Whether thread `t` of `count` has been created. -/
def Created (s : ApiThreads codes) (count t : Nat) : Prop := t < s.user.created count

instance (s : ApiThreads codes) (count t : Nat) : Decidable (s.Created count t) :=
  inferInstanceAs (Decidable (t < _))

def withMonitor (s : ApiThreads codes) (t : Nat) (m : MonitorThread (codes t)) : ApiThreads codes :=
  { s with monitors := Function.update s.monitors t m }

/-- What a thread has printed and the C library has not written yet. -/
def unwritten (s : ApiThreads codes) (t : Nat) : CText :=
  match s.monitors t with
  | .looping _ _ buffer => buffer
  | _ => []

/-- Some text is appended to a file. -/
def write (s : ApiThreads codes) (path text : CText) : ApiThreads codes :=
  { s with files := Function.update s.files path (s.files path ++ text) }

@[simp] theorem withMonitor_self (s : ApiThreads codes) (t : Nat) (m : MonitorThread (codes t)) :
    (s.withMonitor t m).monitors t = m := by
  simp [withMonitor]

@[simp] theorem write_self (s : ApiThreads codes) (path text : CText) :
    (s.write path text).files path = s.files path ++ text := Function.update_self path _ s.files

/-- A step of the user's thread (`mf_api.c:118-131`, `mf_api.c:137-147`). Behind a failed `mf_start`
`num_threads` is still `count`, and to join a thread that was never created is undefined. -/
def userStep (count : Nat) (s : ApiThreads codes) : Option (ApiThreads codes) :=
  match s.user with
  | .creating t => some { s with user := if t < count then .creating (t + 1) else .working }
  | .refused u => some { s with running := false, user := .joiningRefused u 0 }
  | .working => some { s with running := false, user := .joining 0 }
  | .joining t =>
      if t < count then
        match s.monitors t with
        | .finished => some { s with user := .joining (t + 1) }
        | _ => none
      else some { s with user := .ended }
  | .joiningRefused u t =>
      if t < u then
        match s.monitors t with
        | .finished => some { s with user := .joiningRefused u (t + 1) }
        | _ => none
      else none
  | .ended => none

/-- A `pthread_create` that fails: `mf_start` returns, and the threads before run on
(`mf_api.c:123-127`). -/
def refuseStep (count : Nat) (s : ApiThreads codes) : Option (ApiThreads codes) :=
  match s.user with
  | .creating t => if t < count then some { s with user := .refused t } else none
  | _ => none

/-- A monitor enters its function. -/
def enterStep (s : ApiThreads codes) (t : Nat) (opened : Option (codes t).Start) :
    Option (ApiThreads codes) :=
  match s.monitors t, opened with
  | .entering, none =>
      some (if (codes t).exits then { s with exited := true } else s.withMonitor t .finished)
  | .entering, some first =>
      match (codes t).start first with
      | .error _ => none
      | .ok none => some { s with exited := true }
      | .ok (some vars) => some (s.withMonitor t (.looping .testing vars []))
  | _, _ => none

/-- The test of the loop, or `fclose`. -/
def advanceStep (paths : Nat → CText) (s : ApiThreads codes) (t : Nat) :
    Option (ApiThreads codes) :=
  match s.monitors t with
  | .looping .testing vars buffer =>
      some (s.withMonitor t (.looping (if s.running then .sleeping else .closing) vars buffer))
  | .looping .closing _ buffer => some ((s.write (paths t) buffer).withMonitor t .finished)
  | _ => none

/-- An iteration behind `usleep`. -/
def sampleStep (s : ApiThreads codes) (t : Nat) (reading : (codes t).Reading) :
    Option (ApiThreads codes) :=
  match s.monitors t with
  | .looping .sleeping vars buffer =>
      match (codes t).iterate reading vars with
      | .error _ => none
      | .ok none => some { s with exited := true }
      | .ok (some (vars, records)) =>
          some (s.withMonitor t (.looping .testing vars (buffer ++ dataText records)))
  | _ => none

/-- The C library writes a part of a buffer. -/
def flushStep (paths : Nat → CText) (s : ApiThreads codes) (t count : Nat) :
    Option (ApiThreads codes) :=
  match s.monitors t with
  | .looping place vars buffer =>
      some ((s.write (paths t) (buffer.take count)).withMonitor t
        (.looping place vars (buffer.drop count)))
  | _ => none

/-- One move; `paths` are the names of the data files. -/
def step (count : Nat) (paths : Nat → CText) (s : ApiThreads codes) (move : ApiMove codes) :
    Option (ApiThreads codes) :=
  if s.exited then none
  else
    match move with
    | .user => s.userStep count
    | .refuse => s.refuseStep count
    | .enter t opened => if s.Created count t then s.enterStep t opened else none
    | .advance t => if s.Created count t then s.advanceStep paths t else none
    | .sample t reading => if s.Created count t then s.sampleStep t reading else none
    | .flush t n => if s.Created count t then s.flushStep paths t n else none

end ApiThreads

end PhantomMonitor
