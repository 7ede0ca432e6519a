import PhantomMonitor.Publisher.Publisher

/-!
# `mf_send`

`mf_send` of `mf_api.c` registers a new experiment, posts every file of the data directory and,
unless the user keeps the local data, removes the files and the directory.

The directory is the list of its entries in the order in which `readdir` yields them. A regular
file has its bytes and may be unreadable. A directory (`.` and `..` are two of them) opens as a
stream without lines, and `unlink` does not remove it.
-/

namespace PhantomMonitor

open CText

/-- What `drp->d_name` names. -/
inductive EntryKind where
  | regular (data : CText) (readable : Bool)
  | directory
  deriving DecidableEq, Repr

/-- An entry of the data directory, with what the call of `publish_file` on it meets. -/
structure DirEntry where
  name : CText
  kind : EntryKind
  curlInit : Bool
  perform : Nat → Bool

/-- The bytes that the entry holds. -/
def DirEntry.data (e : DirEntry) : CText :=
  match e.kind with
  | .regular data _ => data
  | .directory => []

/-- What reading the entry meets. -/
def DirEntry.transfer (e : DirEntry) : FileTransfer :=
  { curlInit := e.curlInit
    content := match e.kind with
      | .regular data readable => if readable then some data else none
      | .directory => some []
    perform := e.perform }

/-- `unlink` removes regular files only. -/
def DirEntry.unlinked (e : DirEntry) : Bool :=
  match e.kind with
  | .regular _ _ => true
  | .directory => false

/-- The arguments and globals of a call, and what it meets. `dir` is `none` when `opendir`
fails. -/
structure SendEnv where
  server : CText
  applicationId : CText
  componentId : CText
  platformId : CText
  dataPath : CText
  keepLocalDataFlag : Int
  experiment : Transfer
  dir : Option (List DirEntry)

/-- What happened to one entry. -/
structure Visit where
  entry : DirEntry
  posts : List Post
  removed : Bool

/-- What a call returns and leaves behind: the entries it went through, and whether it closed
the log file and tried to remove the directory. -/
structure SendResult where
  ret : Option CText
  visits : List Visit
  logClosed : Bool
  rmdirCalled : Bool
  res : Resources

/-- The size of the texts of a call (`mf_api.c:152-153`, `mf_api.c:168-170`). -/
def textSize : Nat := 256

/-- The size of `experiment_id` (`mf_api.c:154`). -/
def experimentIdSize : Nat := 64

/-- `msg` (`mf_api.c:156-157`). -/
def experimentMessage (env : SendEnv) : CText :=
  "\x7b\"application\":\"".toList ++ env.applicationId ++ "\", \"task\": \"".toList ++
    env.componentId ++ "\", \"host\": \"".toList ++ env.platformId ++ "\"\x7d".toList

/-- `URL` (`mf_api.c:158`). -/
def experimentURL (env : SendEnv) : CText :=
  env.server ++ "/v1/phantom_mf/experiments/".toList ++ env.applicationId

/-- `metric_URL` (`mf_api.c:172`). -/
def metricURL (env : SendEnv) : CText := env.server ++ "/v1/phantom_mf/metrics".toList

/-- `filename` (`mf_api.c:184`). -/
def filePath (env : SendEnv) (e : DirEntry) : CText := env.dataPath ++ '/' :: e.name

/-- `static_string` (`mf_api.c:185-186`). -/
def staticText (env : SendEnv) (experimentId : CText) (e : DirEntry) : CText :=
  "\"WorkflowID\":\"".toList ++ env.applicationId ++ "\", \"TaskID\":\"".toList ++
    env.componentId ++ "\", \"ExperimentID\":\"".toList ++ experimentId ++
    "\", \"type\":\"".toList ++ e.name ++ "\", \"host\":\"".toList ++ env.platformId ++ ['"']

theorem experimentMessage_ne_nil (env : SendEnv) : experimentMessage env ≠ [] :=
  List.append_ne_nil_of_right_ne_nil _ (by decide)

theorem experimentURL_ne_nil (env : SendEnv) : experimentURL env ≠ [] := by simp [experimentURL]

theorem metricURL_ne_nil (env : SendEnv) : metricURL env ≠ [] := by simp [metricURL]

theorem filePath_ne_nil (env : SendEnv) (e : DirEntry) : filePath env e ≠ [] := by simp [filePath]

theorem staticText_ne_nil (env : SendEnv) (experimentId : CText) (e : DirEntry) :
    staticText env experimentId e ≠ [] :=
  List.append_ne_nil_of_right_ne_nil _ (List.cons_ne_nil _ _)

/-- The body of the directory loop (`mf_api.c:184-193`). The value that `publish_file` returns
is not looked at. -/
def sendEntry (env : SendEnv) (metricURL experimentId : CText) (e : DirEntry) (r : Resources) :
    Except Fault (Visit × Resources) := do
  let filename ← store textSize (filePath env e)
  let staticString ← store textSize (staticText env experimentId e)
  let published ← publishFile e.transfer metricURL staticString filename r
  let removed := if env.keepLocalDataFlag = 0 then e.unlinked else false
  return (⟨e, published.posts, removed⟩, published.res)

/-- The directory loop (`mf_api.c:182-199`). -/
def sendEntries (env : SendEnv) (metricURL experimentId : CText) :
    List DirEntry → Resources → Except Fault (List Visit × Resources)
  | [], r => .ok ([], r)
  | e :: entries, r => do
      let (visit, r) ← sendEntry env metricURL experimentId e r
      let (visits, r) ← sendEntries env metricURL experimentId entries r
      return (visit :: visits, r)

/-- `mf_send` (`mf_api.c:149-209`). -/
def mfSend (env : SendEnv) (r : Resources) : Except Fault SendResult := do
  let msg ← store textSize (experimentMessage env)
  let url ← store textSize (experimentURL env)
  let (_, experimentId, r) :=
    createNewExperiment env.experiment url msg (List.replicate experimentIdSize nul) r
  if cstr experimentId = [] then return ⟨none, [], false, false, r⟩
  else do
    let metricUrl ← store textSize (metricURL env)
    match env.dir with
    | none => return ⟨none, [], false, false, r⟩
    | some entries => do
        let (visits, r) ← sendEntries env metricUrl (cstr experimentId) entries r
        return ⟨some (cstr experimentId), visits, true, decide (env.keepLocalDataFlag = 0), r⟩

end PhantomMonitor
