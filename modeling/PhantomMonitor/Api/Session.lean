import Mathlib.Algebra.GroupWithZero.Nat
import Mathlib.Logic.Function.Basic
import PhantomMonitor.Api.MfSend
import PhantomMonitor.Misc.Numeral

/-!
# Sessions of the API

The calls of `mf_api.c` on the variables that they share: the data path, the log file, the monitor
threads and the directory of the data.

The server and the scheduler are the environment, as for `mf_send`. The file system lets files and
directories be made where their directory is there, and `readlink` finds the program. The monitor
threads do not touch the variables, and what they write is not looked at here.
-/

namespace PhantomMonitor

open CText

/-! ## The system -/

/-- The stream that `logFile` names. -/
inductive LogStream where
  | null
  | opened
  | closed
  deriving DecidableEq, Repr

/-- The directories and the regular files, by their paths. -/
structure FileSystem where
  dirs : CText → Bool
  files : CText → Option CText

/-- The path up to its last slash. -/
def dirName (path : CText) : CText := ((strrchr '/' path).map Prod.fst).getD []

namespace FileSystem

/-- A file is written in a directory that is there. -/
def write (fs : FileSystem) (path content : CText) : Option FileSystem :=
  if fs.dirs (dirName path) then
    some { fs with files := Function.update fs.files path (some content) }
  else none

/-- `fopen (path, "w")`. -/
def create (fs : FileSystem) (path : CText) : Option FileSystem := fs.write path []

/-- `fopen (path, "a")`, a `fprintf` and `fclose`. -/
def append (fs : FileSystem) (path text : CText) : Option FileSystem :=
  fs.write path ((fs.files path).getD [] ++ text)

/-- `mkdir (path)`, unless `stat` finds something there. -/
def makeDir (fs : FileSystem) (path : CText) : FileSystem :=
  if fs.dirs path || (fs.files path).isSome || !fs.dirs (dirName path) then fs
  else { fs with dirs := Function.update fs.dirs path true }

/-- `unlink (path)`. -/
def unlink (fs : FileSystem) (path : CText) : FileSystem :=
  { fs with files := Function.update fs.files path none }

/-- `rmdir (path)`, where it succeeds. -/
def removeDir (fs : FileSystem) (path : CText) : FileSystem :=
  { fs with dirs := Function.update fs.dirs path false }

end FileSystem

/-- The process that uses the API: the link `/proc/self/exe`, and its pid. -/
structure Process where
  exe : CText
  pid : Nat
  absolute : ['/'] <+: exe
  small : pid < 2 ^ 31

/-- The variables of `mf_api.c`. A thread is named by a number that counts the threads created;
`live` lists those that were not joined. `logUses` lists the streams that were written to or closed,
and `joins` says of each join whether its thread was there to be joined. -/
structure Session where
  dataPath : CText
  logFile : LogStream
  keepLocalDataFlag : Int
  running : Int
  numThreads : Nat
  threads : Nat → Nat
  fs : FileSystem
  res : Resources
  created : Nat
  live : List Nat
  logUses : List LogStream
  joins : List Bool

namespace Session

/-- The variables when the library is loaded. -/
def fresh (fs : FileSystem) : Session where
  dataPath := []
  logFile := .null
  keepLocalDataFlag := 1
  running := 0
  numThreads := 0
  threads := fun _ => 0
  fs
  res := ⟨0, 0⟩
  created := 0
  live := []
  logUses := []
  joins := []

/-- A number of writes to the log file. -/
def useLog (n : Nat) (s : Session) : Session :=
  { s with logUses := s.logUses ++ List.replicate n s.logFile }

/-- `fclose (logFile)`. -/
def closeLog (s : Session) : Session := { s.useLog 1 with logFile := .closed }

/-- `pthread_create (&threads[t], ...)` when it succeeds. -/
def createThread (t : Nat) (s : Session) : Session :=
  { s with
    threads := Function.update s.threads t (s.created + 1)
    created := s.created + 1
    live := s.live ++ [s.created + 1] }

/-- `pthread_join (threads[t])`. -/
def join (t : Nat) (s : Session) : Session :=
  { s with
    live := s.live.erase (s.threads t)
    joins := s.joins ++ [decide (s.threads t ∈ s.live)] }

end Session

/-! ## Preparing a session -/

/-- The length that `readlink` is given (`mf_api.c:226`). -/
def linkSize : Nat := 200

/-- `api_prepare` (`mf_api.c:214-253`). -/
def apiPrepare (proc : Process) (s : Session) : Except Fault Session :=
  match strrchr '/' (cstr (proc.exe.take linkSize)) with
  | none => .error .outOfBounds
  | some (dir, _) => do
      let logFileName ← store textSize (dir ++ "/log.txt".toList)
      let (logFile, fs) := match s.fs.create logFileName with
        | none => (LogStream.null, s.fs)
        | some fs => (LogStream.opened, fs)
      let dataPath ← store textSize (dir ++ '/' :: Nat.toDigits 10 proc.pid)
      return { s with dataPath, logFile, fs := fs.makeDir dataPath }

/-! ## User metrics -/

/-- The name of the file of the user metrics. -/
def userDefined : CText := "user_defined".toList

/-- `FileName` (`mf_api.c:53`). -/
def userFile (dataPath : CText) : CText := dataPath ++ '/' :: userDefined

/-- The text of a record, without the newline (`mf_api.c:60`). -/
def userRecord (timestamp metricName value : CText) : CText :=
  "\"local_timestamp\":\"".toList ++ timestamp ++ "\", \"".toList ++ metricName ++
    "\":".toList ++ value

/-- The session is prepared when `DataPath` is empty (`mf_api.c:48-50`). -/
def prepareOnce (proc : Process) (s : Session) : Except Fault Session :=
  if s.dataPath = [] then apiPrepare proc s else .ok s

/-- The body of the functions for user metrics, given the record (`mf_api.c:48-63`). -/
def storeRecord (proc : Process) (record : CText) (s : Session) : Except Fault (Int × Session) := do
  let s ← prepareOnce proc s
  let fileName ← store textSize (userFile s.dataPath)
  match s.fs.append fileName (record ++ ['\n']) with
  | none => return (0, s)
  | some fs => return (1, { s with fs })

/-- `mf_user_metric_with_timestamp` (`mf_api.c:46-64`). -/
def mfUserMetricWithTimestamp (proc : Process) (timestamp metricName value : CText) (s : Session) :
    Except Fault (Int × Session) :=
  storeRecord proc (userRecord timestamp metricName value) s

/-- `mf_user_metric` (`mf_api.c:67-90`) at a time in milliseconds. -/
def mfUserMetric (proc : Process) (timestampMs : Rat) (metricName value : CText) (s : Session) :
    Except Fault (Int × Session) :=
  storeRecord proc (userRecord (fixed 1 timestampMs) metricName value) s

/-! ## Starting and ending the threads -/

/-- `MAX_NUM_METRICS` (`mf_api.h:4`). -/
def maxNumMetrics : Nat := 3

/-- The members of `metrics` that `mf_start` looks at itself. -/
structure Metrics where
  numMetrics : Nat
  localDataStorage : Int
  bounded : numMetrics ≤ maxNumMetrics

/-- What `pthread_create` does. When it fails, what stands in its first argument is left open. -/
inductive ThreadOutcome where
  | created
  | refused (left : Nat)
  deriving DecidableEq, Repr

/-- What a call of `mf_start` meets: the transfer of the configuration, the value of
`get_config_parameters` for the answer, and the outcome of each `pthread_create`. -/
structure StartEnv where
  server : CText
  platformId : CText
  metrics : Metrics
  query : Transfer
  parsed : Int
  creates : Nat → ThreadOutcome

/-- The writes to the log in `query_json`. -/
def queryLogs (t : Transfer) (url : CText) : Nat :=
  if checkURL url = failed then 1
  else if t.curlInit && !t.perform then 1 else 0

/-- `get_config_parameters` (`mf_api.c:273-325`) up to the look at the answer. -/
def getConfigParameters (env : StartEnv) (s : Session) : Except Fault (Int × Session) := do
  let url ← store textSize (env.server ++ "/v1/phantom_rm/configs/".toList ++ env.platformId)
  let (ok, _, res) := queryJson env.query url (List.replicate textSize nul) s.res
  let s := { s.useLog (queryLogs env.query url) with res }
  if ok ≤ 0 then return (0, s) else return (env.parsed, s)

/-- The loop over the metrics (`mf_api.c:116-126`). -/
def createThreads (creates : Nat → ThreadOutcome) : List Nat → Session → Bool × Session
  | [], s => (true, s)
  | t :: ts, s =>
      match creates t with
      | .created => createThreads creates ts (s.createThread t)
      | .refused left => (false, { s with threads := Function.update s.threads t left })

/-- `mf_start` (`mf_api.c:97-128`). -/
def mfStart (proc : Process) (env : StartEnv) (s : Session) :
    Except Fault (Option CText × Session) := do
  let s ← apiPrepare proc s
  let (config, s) ← getConfigParameters env s
  if config ≤ 0 then return (none, s)
  else
    let s := { s with
      numThreads := env.metrics.numMetrics
      running := 1
      keepLocalDataFlag := env.metrics.localDataStorage }
    let (ok, s) := createThreads env.creates (List.range env.metrics.numMetrics) s
    return (if ok then some s.dataPath else none, s)

/-- `mf_end` (`mf_api.c:134-142`). -/
def mfEnd (s : Session) : Session :=
  (List.range s.numThreads).foldl (fun s t => s.join t) { s with running := 0 }

/-! ## Sending the data -/

/-- An entry that `readdir` yields, with what the call of `publish_file` on it meets. -/
structure Listed where
  name : CText
  readable : Bool
  curlInit : Bool
  perform : Nat → Bool

/-- The entry in a directory. What is not a file is a directory. -/
def Listed.entry (fs : FileSystem) (dataPath : CText) (l : Listed) : DirEntry where
  name := l.name
  kind := match fs.files (dataPath ++ '/' :: l.name) with
    | some data => .regular data l.readable
    | none => .directory
  curlInit := l.curlInit
  perform := l.perform

/-- A call of `mf_send`: its arguments and what it meets. `removable` says whether `rmdir`
succeeds. -/
structure SendCall where
  server : CText
  applicationId : CText
  componentId : CText
  platformId : CText
  experiment : Transfer
  listing : List Listed
  removable : Bool

/-- What the call meets in a session. `opendir` fails on the empty path. -/
def SendCall.env (c : SendCall) (s : Session) : SendEnv where
  server := c.server
  applicationId := c.applicationId
  componentId := c.componentId
  platformId := c.platformId
  dataPath := s.dataPath
  keepLocalDataFlag := s.keepLocalDataFlag
  experiment := c.experiment
  dir := if s.dataPath ≠ [] ∧ s.fs.dirs s.dataPath then
      some (c.listing.map (Listed.entry s.fs s.dataPath))
    else none

/-- The writes to the log in `create_new_experiment`. -/
def experimentLogs (t : Transfer) (url message : CText) : Nat :=
  if checkURL url = failed ∨ checkMessage message = failed then 1
  else if t.curlInit && !t.perform then 1 else 0

/-- The writes to the log in a call of `publish_file` that made the posts. -/
def publishLogs (t : FileTransfer) (url staticString filename : CText) (posts : List Post) : Nat :=
  if checkURL url = failed ∨ checkMessage staticString = failed ∨ checkMessage filename = failed
  then 1
  else if !t.curlInit then 0
  else if t.content.isNone || posts.any (fun post => !post.ok) then 1 else 0

/-- The writes to the log for one entry. -/
def visitLogs (env : SendEnv) (experimentId : CText) (v : Visit) : Nat :=
  publishLogs v.entry.transfer (metricURL env) (staticText env experimentId v.entry)
    (filePath env v.entry) v.posts

/-- `mf_send` (`mf_api.c:149-209`) in a session. -/
def mfSendSession (c : SendCall) (s : Session) : Except Fault (SendResult × Session) := do
  let env := c.env s
  let out ← mfSend env s.res
  let s := s.useLog (experimentLogs c.experiment (experimentURL env) (experimentMessage env))
  let s := s.useLog ((out.visits.map (visitLogs env (out.ret.getD []))).sum)
  let removed := (out.visits.filter Visit.removed).map fun v => filePath env v.entry
  let s := { s with fs := removed.foldl FileSystem.unlink s.fs, res := out.res }
  let s := if out.logClosed then s.closeLog else s
  return (out, if out.rmdirCalled && c.removable then
      { s with fs := s.fs.removeDir s.dataPath } else s)

/-! ## Runs -/

/-- A call of the API. -/
inductive ApiCall where
  | userMetric (timestampMs : Rat) (metricName value : CText)
  | userMetricWithTimestamp (timestamp metricName value : CText)
  | start (env : StartEnv)
  | finish
  | send (call : SendCall)

/-- What a call returns. -/
inductive ApiResult where
  | stored (ret : Int)
  | path (ret : Option CText)
  | ended
  | sent (out : SendResult)

/-- A call in a session. -/
def apiCall (proc : Process) (call : ApiCall) (s : Session) : Except Fault (ApiResult × Session) :=
  match call with
  | .userMetric timestampMs metricName value => do
      let (ret, s) ← mfUserMetric proc timestampMs metricName value s
      return (.stored ret, s)
  | .userMetricWithTimestamp timestamp metricName value => do
      let (ret, s) ← mfUserMetricWithTimestamp proc timestamp metricName value s
      return (.stored ret, s)
  | .start env => do
      let (ret, s) ← mfStart proc env s
      return (.path ret, s)
  | .finish => .ok (.ended, mfEnd s)
  | .send call => do
      let (out, s) ← mfSendSession call s
      return (.sent out, s)

/-- A call of a run, with the session before and after it. -/
structure ApiStep where
  before : Session
  call : ApiCall
  result : ApiResult
  after : Session

/-- A number of calls, one after the other. -/
def apiRun (proc : Process) : List ApiCall → Session → Except Fault (List ApiStep)
  | [], _ => .ok []
  | call :: calls, s => do
      let (result, after) ← apiCall proc call s
      let steps ← apiRun proc calls after
      return ⟨s, call, result, after⟩ :: steps

/-- What every step keeps holds along a run, as long as the steps are safe. -/
theorem apiRun_forall {proc : Process} {Inv : Session → Prop} {Safe Good : ApiStep → Prop}
    (each : ∀ call s result after, Inv s → apiCall proc call s = .ok (result, after) →
      Safe ⟨s, call, result, after⟩ → Inv after ∧ Good ⟨s, call, result, after⟩)
    {calls : List ApiCall} {s : Session} {steps : List ApiStep} (start : Inv s)
    (run : apiRun proc calls s = .ok steps) (safe : ∀ step ∈ steps, Safe step) :
    ∀ step ∈ steps, Good step := by
  induction calls generalizing s steps with
  | nil =>
      cases run
      intro step inside
      cases inside
  | cons call calls ih =>
      obtain ⟨⟨result, after⟩, hcall, run⟩ := Fault.bind_eq_ok.mp run
      obtain ⟨rest, hrest, run⟩ := Fault.bind_eq_ok.mp run
      cases run
      obtain ⟨first, safe⟩ := List.forall_mem_cons.mp safe
      obtain ⟨kept, good⟩ := each call s result after start hcall first
      exact List.forall_mem_cons.mpr ⟨good, ih kept hrest safe⟩

end PhantomMonitor
