import Mathlib.Data.Nat.Digits.Defs
import PhantomMonitor.Api.Session

/-!
# Prepared sessions

What `api_prepare` leaves behind when the file system lets it: the path, the directory and the log
file belong together, and a user metric is stored.
-/

namespace PhantomMonitor

open CText

/-! ## The paths of a process -/

namespace Process

variable (proc : Process)

/-- The directory of the program, as far as the link is read. -/
def dir : CText := dirName (cstr (proc.exe.take linkSize))

/-- `DataPath` and the name of the log file after `api_prepare`. -/
def dataPath : CText := proc.dir ++ '/' :: Nat.toDigits 10 proc.pid

def logPath : CText := proc.dir ++ "/log.txt".toList

/-- The link starts with a slash, so there is a last one. -/
theorem strrchr_exe :
    ∃ found, strrchr '/' (cstr (proc.exe.take linkSize)) = some (proc.dir, found) := by
  obtain ⟨rest, hexe⟩ := proc.absolute
  have slash : ∃ tail, cstr (proc.exe.take linkSize) = '/' :: tail := by
    rw [← hexe]
    exact ⟨_, rfl⟩
  obtain ⟨tail, htail⟩ := slash
  have found : ∃ split, strrchr '/' (cstr (proc.exe.take linkSize)) = some split := by
    rw [htail, strrchr]
    cases strrchr '/' tail with
    | none => exact ⟨_, if_pos rfl⟩
    | some split => exact ⟨_, rfl⟩
  obtain ⟨⟨before, after⟩, hsplit⟩ := found
  refine ⟨after, ?_⟩
  rw [dir, dirName, hsplit]
  rfl

theorem dir_length_le : proc.dir.length ≤ linkSize := by
  obtain ⟨found, hfound⟩ := proc.strrchr_exe
  have whole := congrArg List.length (append_of_strrchr hfound)
  have short := cstr_length_le (proc.exe.take linkSize)
  have taken := List.length_take_le linkSize proc.exe
  rw [List.length_append] at whole
  omega

theorem dataPath_length_le : proc.dataPath.length ≤ linkSize + 11 := by
  have small : proc.pid < 10 ^ 10 := Nat.lt_trans proc.small (by decide)
  have digits := Nat.toDigits_length 10 proc.pid 10 (by decide) small
  have := proc.dir_length_le
  rw [dataPath, List.length_append, List.length_cons]
  omega

theorem logPath_fits : proc.logPath.length < textSize := by
  have := proc.dir_length_le
  have name : "/log.txt".toList.length = 8 := rfl
  rw [logPath, List.length_append, name]
  simp only [linkSize, textSize] at *
  omega

theorem dataPath_fits : proc.dataPath.length < textSize := by
  have := proc.dataPath_length_le
  simp only [linkSize, textSize] at *
  omega

theorem userFile_fits : (userFile proc.dataPath).length < textSize := by
  have := proc.dataPath_length_le
  have name : userDefined.length = 12 := rfl
  rw [userFile, List.length_append, List.length_cons, name]
  simp only [linkSize, textSize] at *
  omega

theorem dataPath_ne_nil : proc.dataPath ≠ [] := by simp [dataPath]

end Process

theorem dirName_append (dir : CText) {name : CText} (h : '/' ∉ name) :
    dirName (dir ++ '/' :: name) = dir := by
  rw [dirName, strrchr_append dir h]
  rfl

theorem dirName_userFile (dataPath : CText) : dirName (userFile dataPath) = dataPath :=
  dirName_append dataPath (by decide)

theorem Process.dirName_dataPath (proc : Process) : dirName proc.dataPath = proc.dir :=
  dirName_append proc.dir (notMem_toDigits _ rfl)

theorem Process.dirName_logPath (proc : Process) : dirName proc.logPath = proc.dir := by
  have split : "/log.txt".toList = '/' :: "log.txt".toList := by decide
  rw [Process.logPath, split]
  exact dirName_append proc.dir (by decide)

theorem Process.dataPath_ne_dir (proc : Process) : proc.dataPath ≠ proc.dir := by
  intro same
  have longer := congrArg List.length same
  simp [Process.dataPath] at longer

/-- The two files are in different directories. -/
theorem Process.userFile_ne_logPath (proc : Process) : userFile proc.dataPath ≠ proc.logPath := by
  intro same
  have dirs := congrArg dirName same
  rw [dirName_userFile, proc.dirName_logPath] at dirs
  exact proc.dataPath_ne_dir dirs

theorem Process.userFile_ne_dataPath (proc : Process) : userFile proc.dataPath ≠ proc.dataPath := by
  intro same
  have longer := congrArg List.length same
  simp [userFile] at longer

/-! ## `api_prepare` -/

/-- The file system lets the process make its files: the directory of the program is there, and no
file stands in the way of the data directory. -/
structure Permits (proc : Process) (fs : FileSystem) : Prop where
  dir : fs.dirs proc.dir = true
  free : fs.files proc.dataPath = none

/-- A program in a directory, and the file system when it starts. -/
def apiProcess : Process where
  exe := "/opt/app".toList
  pid := 7
  absolute := ⟨"opt/app".toList, by decide⟩
  small := by decide

def apiFiles : FileSystem where
  dirs := fun path => path = "/opt".toList
  files := fun _ => none

theorem apiFiles_permits : Permits apiProcess apiFiles := ⟨by decide, rfl⟩

/-- The session after `api_prepare`. -/
def Session.prepare (proc : Process) (s : Session) : Session :=
  { s with
    dataPath := proc.dataPath
    logFile := .opened
    fs := FileSystem.makeDir
      { s.fs with files := Function.update s.fs.files proc.logPath (some []) } proc.dataPath }

theorem apiPrepare_eq {proc : Process} {s : Session} (permits : Permits proc s.fs) :
    apiPrepare proc s = .ok (s.prepare proc) := by
  obtain ⟨found, hfound⟩ := proc.strrchr_exe
  have logged : s.fs.create proc.logPath =
      some { s.fs with files := Function.update s.fs.files proc.logPath (some []) } := by
    rw [FileSystem.create, FileSystem.write, proc.dirName_logPath, if_pos permits.dir]
  unfold apiPrepare
  rw [hfound]
  dsimp only
  rw [← Process.logPath, ← Process.dataPath, store_bind, if_pos proc.logPath_fits, logged]
  dsimp only
  rw [store_bind, if_pos proc.dataPath_fits]
  rfl

/-- The path, the directory and the log file belong together. -/
structure Session.Prepared (proc : Process) (s : Session) : Prop where
  path : s.dataPath = proc.dataPath
  dir : s.fs.dirs proc.dataPath = true
  log : s.logFile = .opened

theorem FileSystem.makeDir_files (fs : FileSystem) (path : CText) :
    (fs.makeDir path).files = fs.files := by
  unfold FileSystem.makeDir
  split <;> rfl

theorem FileSystem.makeDir_dirs {fs : FileSystem} {path : CText}
    (parent : fs.dirs (dirName path) = true) (free : fs.files path = none) :
    (fs.makeDir path).dirs path = true := by
  unfold FileSystem.makeDir
  cases known : fs.dirs path with
  | true => simpa using known
  | false => simp [parent, free]

theorem FileSystem.makeDir_kept {fs : FileSystem} {path dir : CText} (h : fs.dirs dir = true) :
    (fs.makeDir path).dirs dir = true := by
  unfold FileSystem.makeDir
  split
  · exact h
  · by_cases same : dir = path
    · exact same ▸ Function.update_self _ _ _
    · exact (Function.update_of_ne same _ _).trans h

theorem Session.prepare_files (proc : Process) (s : Session) {path : CText}
    (other : path ≠ proc.logPath) : (s.prepare proc).fs.files path = s.fs.files path := by
  rw [Session.prepare, FileSystem.makeDir_files]
  exact Function.update_of_ne other _ _

theorem Process.dataPath_ne_logPath (proc : Process) : proc.dataPath ≠ proc.logPath := by
  intro same
  have names := List.append_cancel_left same
  have slash : "/log.txt".toList = '/' :: "log.txt".toList := by decide
  rw [slash] at names
  have digit : 'l' ∈ Nat.toDigits 10 proc.pid := by
    rw [List.tail_eq_of_cons_eq names]
    decide
  exact notMem_toDigits _ rfl digit

theorem Session.prepare_permits {proc : Process} {s : Session} (permits : Permits proc s.fs) :
    Permits proc (s.prepare proc).fs where
  dir := FileSystem.makeDir_kept permits.dir
  free := (s.prepare_files proc proc.dataPath_ne_logPath).trans permits.free

theorem Session.prepare_prepared {proc : Process} {s : Session} (permits : Permits proc s.fs) :
    (s.prepare proc).Prepared proc where
  path := rfl
  dir := by
    apply FileSystem.makeDir_dirs
    · rw [proc.dirName_dataPath]
      exact permits.dir
    · exact (Function.update_of_ne proc.dataPath_ne_logPath _ _).trans permits.free
  log := rfl

/-! ## User metrics -/

/-- The session in which a user metric is stored. -/
def Session.ready (proc : Process) (s : Session) : Session :=
  if s.dataPath = [] then s.prepare proc else s

/-- The file of the user metrics. -/
def Session.userData (proc : Process) (s : Session) : CText :=
  (s.fs.files (userFile proc.dataPath)).getD []

/-- The session with one more record in the file. -/
def Session.addRecord (proc : Process) (record : CText) (s : Session) : Session :=
  { s with fs := { s.fs with
      files := Function.update s.fs.files (userFile proc.dataPath)
        (some (s.userData proc ++ (record ++ ['\n']))) } }

theorem Session.ready_prepared {proc : Process} {s : Session} (permits : Permits proc s.fs)
    (start : s.dataPath = [] ∨ s.Prepared proc) :
    (s.ready proc).Prepared proc ∧ Permits proc (s.ready proc).fs ∧
      (s.ready proc).userData proc = s.userData proc := by
  unfold Session.ready
  split
  · refine ⟨Session.prepare_prepared permits, Session.prepare_permits permits, ?_⟩
    rw [Session.userData, s.prepare_files proc proc.userFile_ne_logPath, Session.userData]
  · rename_i set
    exact ⟨start.resolve_left set, permits, rfl⟩

/-- A user metric is stored in a session that is prepared or not begun. -/
theorem storeRecord_eq {proc : Process} {s : Session} (permits : Permits proc s.fs)
    (start : s.dataPath = [] ∨ s.Prepared proc) (record : CText) :
    storeRecord proc record s = .ok (1, (s.ready proc).addRecord proc record) := by
  obtain ⟨prepared, -, -⟩ := Session.ready_prepared permits start
  have ready : prepareOnce proc s = .ok (s.ready proc) := by
    unfold prepareOnce Session.ready
    split
    · exact apiPrepare_eq permits
    · rfl
  have written : (s.ready proc).fs.append (userFile proc.dataPath) (record ++ ['\n']) =
      some ((s.ready proc).addRecord proc record).fs := by
    rw [FileSystem.append, FileSystem.write, dirName_userFile, if_pos prepared.dir]
    rfl
  have named : store textSize (userFile (s.ready proc).dataPath) =
      .ok (userFile proc.dataPath) := by
    rw [prepared.path]
    exact store_ok proc.userFile_fits
  simp only [storeRecord, ready, bind, Except.bind, named, written]
  rfl

/-- The record that a call for a user metric writes. -/
def ApiCall.record : ApiCall → Option CText
  | .userMetric timestampMs metricName value =>
      some (userRecord (fixed 1 timestampMs) metricName value)
  | .userMetricWithTimestamp timestamp metricName value =>
      some (userRecord timestamp metricName value)
  | _ => none

/-- A call that has a record stores it. -/
theorem apiCall_record {proc : Process} {s : Session} (permits : Permits proc s.fs)
    (start : s.dataPath = [] ∨ s.Prepared proc) {call : ApiCall} {record : CText}
    (h : call.record = some record) :
    apiCall proc call s = .ok (.stored 1, (s.ready proc).addRecord proc record) := by
  cases call with
  | userMetric timestampMs metricName value =>
      cases h
      simp [apiCall, mfUserMetric, storeRecord_eq permits start, bind, Except.bind, pure,
        Except.pure]
  | userMetricWithTimestamp timestamp metricName value =>
      cases h
      simp [apiCall, mfUserMetricWithTimestamp, storeRecord_eq permits start, bind, Except.bind,
        pure, Except.pure]
  | start env => cases h
  | finish => cases h
  | send call => cases h

theorem Session.addRecord_prepared {proc : Process} {s : Session} (h : s.Prepared proc)
    (record : CText) : (s.addRecord proc record).Prepared proc := ⟨h.path, h.dir, h.log⟩

theorem Session.addRecord_permits {proc : Process} {s : Session} (h : Permits proc s.fs)
    (record : CText) : Permits proc (s.addRecord proc record).fs :=
  ⟨h.dir, (Function.update_of_ne proc.userFile_ne_dataPath.symm _ _).trans h.free⟩

theorem Session.addRecord_userData (proc : Process) (s : Session) (record : CText) :
    (s.addRecord proc record).userData proc = s.userData proc ++ (record ++ ['\n']) := by
  simp [Session.addRecord, Session.userData]

end PhantomMonitor
