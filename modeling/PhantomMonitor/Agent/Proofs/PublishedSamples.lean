import PhantomMonitor.Agent.Proofs.GatherBuffers
import PhantomMonitor.Plugins.Proofs.PluginNames

/-!
# What is published of a plugin

The gatherer thread puts the texts of a plugin into objects and posts these in bulks. Here the same
samples are taken as data, without a text, and compared with what a reader of the messages gets.
-/

namespace PhantomMonitor

open CText Json

/-! ## Samples as data -/

/-- A sample: its time and the metrics that are shown. -/
structure Sample where
  ts : Rat
  entries : List (CText × FloatValue)

section

variable {H : HashTable CText}

/-- The samples of some calls of the hook, with the variables after them. -/
def sampleRun (c : Connector H) (readings : Nat → c.Reading) (vars : PluginVars c) :
    Nat → Except Fault (Option (List Sample × PluginVars c))
  | 0 => .ok (some ([], vars))
  | k + 1 => do
      match ← sampleRun c readings vars k with
      | none => return none
      | some (samples, vars) =>
          match ← c.sample vars.param (readings k) vars.monitoringData with
          | none => return none
          | some (_, monitoringData) =>
              let entries ← c.entries vars.confData monitoringData
              let sample := ⟨c.ts (readings k) monitoringData, entries⟩
              return some (samples ++ [sample], { vars with monitoringData })

/-- The text that a plugin makes of a sample. -/
def Sample.text (type : CText) (sample : Sample) : CText :=
  metricsTextWith (FloatValue.fixed 3) type sample.ts sample.entries

/-- A sample whose names stand for themselves in a text. -/
def Sample.PlainNames (sample : Sample) : Prop := ∀ entry ∈ sample.entries, Plain entry.1

variable {c : Connector H} {found : c.Found → PluginTable c.Value × c.Vars → Prop}

/-- The hook of an initialized plugin shows what its sample has left in the table. -/
theorem mfPluginHook_eq_ok {r : c.Reading} {vars vars' : PluginVars c} {result : Option CText}
    (initialized : vars.isInitialized = true)
    (run : mfPluginHook c r vars = .ok (some (result, vars'))) :
    ∃ ret s entries, c.sample vars.param r vars.monitoringData = .ok (some (ret, s)) ∧
      c.entries vars.confData s = .ok entries ∧
      result = some (Sample.text c.type ⟨c.ts r s, entries⟩) ∧
      vars' = { vars with monitoringData := s } := by
  rw [mfPluginHook, if_pos initialized] at run
  obtain ⟨sampled, hsample, run⟩ := Fault.bind_eq_ok.mp run
  cases sampled with
  | none => cases run
  | some sampled =>
      obtain ⟨json, htext, run⟩ := Fault.bind_eq_ok.mp run
      obtain ⟨json', hstore, run⟩ := Fault.bind_eq_ok.mp run
      cases run
      rw [c.shown] at htext
      obtain ⟨entries, hentries, rfl⟩ := Fault.map_eq_ok.mp htext
      exact ⟨sampled.1, sampled.2, entries, hsample, hentries, congrArg some (store_eq_ok hstore),
        rfl⟩

/-- The results of the hook are the texts of the samples that it takes. -/
theorem hookRun_samples (names : PlainNames c found) {readings : Nat → c.Reading}
    {vars : PluginVars c} (initialized : vars.isInitialized = true)
    (table : PlainTable vars.monitoringData.1) {k : Nat} {results : List (Option CText)}
    {after : PluginVars c} (run : hookRun c readings vars k = .ok (some (results, after))) :
    (∃ samples, sampleRun c readings vars k = .ok (some (samples, after)) ∧
      results = samples.map (fun sample => some (sample.text c.type)) ∧
      ∀ sample ∈ samples, sample.PlainNames) ∧
    after.isInitialized = true ∧ PlainTable after.monitoringData.1 := by
  induction k generalizing results after with
  | zero =>
      cases run
      exact ⟨⟨[], rfl, rfl, fun _ none => absurd none List.not_mem_nil⟩, initialized, table⟩
  | succ k ih =>
      obtain ⟨before, hbefore, run⟩ := Fault.bind_eq_ok.mp run
      cases before with
      | none => cases run
      | some before =>
          obtain ⟨earlier, middle⟩ := before
          obtain ⟨⟨samples, hsamples, rfl, plain⟩, initialized', table'⟩ := ih hbefore
          obtain ⟨last, hlast, run⟩ := Fault.bind_eq_ok.mp run
          cases last with
          | none => cases run
          | some last =>
              cases run
              obtain ⟨ret, s, entries, hsample, hentries, result, vars'⟩ :=
                mfPluginHook_eq_ok initialized' hlast
              have table'' : PlainTable s.1 := names.sample table' hsample
              have plain' : Sample.PlainNames ⟨c.ts (readings k) s, entries⟩ :=
                names.entries table'' hentries
              refine ⟨⟨samples ++ [⟨c.ts (readings k) s, entries⟩], ?_, ?_, ?_⟩, ?_, ?_⟩
              · rw [sampleRun, hsamples]
                simp only [bind, Except.bind, hsample, hentries, vars']
                rfl
              · rw [result, List.map_append]
                rfl
              · exact List.forall_mem_append.mpr ⟨plain, List.forall_mem_singleton.mpr plain'⟩
              · rw [vars']
                exact initialized'
              · rw [vars']
                exact table''

end

/-! ## Objects -/

/-- The identifiers of a run stand for themselves in a text. -/
structure PlainIds (env : GatherEnv) : Prop where
  applicationId : Plain env.applicationId
  experimentId : Plain env.experimentId
  taskId : Plain env.taskId
  platformId : Plain env.platformId

/-- The fields that every object of a run starts with. -/
def identifierFields (env : GatherEnv) : List Field :=
  [.string "WorkflowID".toList env.applicationId, .string "ExperimentID".toList env.experimentId,
    .string "TaskID".toList env.taskId, .string "host".toList env.platformId]

theorem identifierFields_fit {env : GatherEnv} (ids : PlainIds env) :
    ∀ f ∈ identifierFields env, f.Fits := by
  have workflow : Plain "WorkflowID".toList := plain_of_all (by decide)
  have experiment : Plain "ExperimentID".toList := plain_of_all (by decide)
  have task : Plain "TaskID".toList := plain_of_all (by decide)
  have host : Plain "host".toList := plain_of_all (by decide)
  simp only [identifierFields, List.forall_mem_cons]
  exact ⟨Field.string_fits workflow ids.applicationId,
    Field.string_fits experiment ids.experimentId,
    Field.string_fits task ids.taskId, Field.string_fits host ids.platformId, List.forall_mem_nil _⟩

/-- A metric as a reader should get it. -/
def metricJson (entry : CText × FloatValue) : Option (CText × Json) :=
  entry.2.json.map fun value => (entry.1, value)

/-- A sample as a reader of the messages should get it; `none` if one of its values is no number. -/
def sampleJson (env : GatherEnv) (type : CText) (sample : Sample) : Option Json :=
  (sample.entries.mapM metricJson).map
    fun metrics => .obj ([("WorkflowID".toList, .str env.applicationId),
      ("ExperimentID".toList, .str env.experimentId), ("TaskID".toList, .str env.taskId),
      ("host".toList, .str env.platformId), ("type".toList, .str type),
      ("local_timestamp".toList, .str (fixed 1 sample.ts))] ++ metrics)

/-- The object of a sample has the fields of the run and those of the sample. -/
theorem sampleObject_fields (env : GatherEnv) (type : CText) (sample : Sample) :
    sampleObject env (sample.text type) =
      '{' :: fieldsText [] (identifierFields env ++ metricsFields type sample.ts sample.entries) ++
        ['}'] := by
  have first : "\x7b\"WorkflowID\":\"".toList =
      '{' :: '"' :: ("WorkflowID".toList ++ ['"', ':', '"']) := by decide
  have second : "\",\"ExperimentID\":\"".toList =
      '"' :: ',' :: '"' :: ("ExperimentID".toList ++ ['"', ':', '"']) := by decide
  have third : "\",\"TaskID\":\"".toList =
      '"' :: ',' :: '"' :: ("TaskID".toList ++ ['"', ':', '"']) := by decide
  have fourth : "\",\"host\":\"".toList =
      '"' :: ',' :: '"' :: ("host".toList ++ ['"', ':', '"']) := by decide
  have last : "\",".toList = ['"', ','] := by decide
  have ids : identifierFields env ≠ [] := List.cons_ne_nil _ _
  have metrics : metricsFields type sample.ts sample.entries ≠ [] := List.cons_ne_nil _ _
  rw [fieldsText_append [] ids metrics, ← metricsText_fields, identifierFields,
    fieldsText_cons_flatMap]
  unfold sampleObject staticJson Sample.text
  simp only [first, second, third, fourth, last, Field.string, Field.written, List.flatMap_cons,
    List.flatMap_nil, List.append_assoc, List.cons_append, List.nil_append]

/-- The object of a sample shows the sample. -/
theorem shows_sample {env : GatherEnv} (ids : PlainIds env) {type : CText} (plain : Plain type)
    {sample : Sample} (names : sample.PlainNames) :
    Shows (sampleObject env (sample.text type)) (sampleJson env type sample) := by
  have fields := metricsFields_fit plain sample.ts names
  have object := shows_object (List.forall_mem_nil fun c => isBlank c = true)
    (List.forall_mem_append.mpr ⟨identifierFields_fit ids, fields⟩)
    (List.append_ne_nil_of_left_ne_nil (List.cons_ne_nil _ _) _)
  have found : ((identifierFields env ++ metricsFields type sample.ts sample.entries).mapM
      Field.found).map Json.obj = sampleJson env type sample := by
    have metrics : (sample.entries.map metricField).mapM Field.found =
        sample.entries.mapM metricJson := List.mapM_map
    unfold sampleJson identifierFields metricsFields
    simp only [List.mapM_append, List.mapM_cons, List.mapM_nil, metrics]
    cases sample.entries.mapM metricJson <;> rfl
  rw [sampleObject_fields, ← found]
  exact object

/-! ## Messages -/

/-- Whoever reads the messages gets every sample, in the order of the calls, each message the
samples of a bulk; a bulk with a value that is no number cannot be read. -/
structure Readable (env : GatherEnv) (type : CText) (sent : List Bulk) (samples : List Sample) :
    Prop where
  bulks : ∃ chunks : List (List Sample), chunks.flatten = samples ∧
    (∀ chunk ∈ chunks, 1 ≤ chunk.length ∧ chunk.length ≤ env.bulkSize) ∧
    sent.map (fun bulk => Json.read bulk.text) =
      chunks.map fun chunk => (chunk.mapM (sampleJson env type)).map .arr

theorem one_le_bulkLength {sleepOk : Nat → Bool} {n : Nat} (positive : 1 ≤ n) (k : Nat) :
    1 ≤ bulkLength sleepOk n k := by
  obtain ⟨n, rfl⟩ := Nat.exists_eq_add_of_le' positive
  rw [bulkLength]
  split <;> omega

/-- A list of lists whose items come from other items is made of lists of these. -/
theorem exists_chunks {α β : Type} {f : α → β} {lists : List (List β)} {items : List α}
    (h : lists.flatten = items.map f) :
    ∃ chunks : List (List α), chunks.flatten = items ∧ lists = chunks.map (List.map f) := by
  induction lists generalizing items with
  | nil => exact ⟨[], (List.map_eq_nil_iff.mp h.symm).symm, rfl⟩
  | cons list lists ih =>
      obtain ⟨chunk, rest, rfl, rfl, others⟩ := List.map_eq_append_iff.mp h.symm
      obtain ⟨chunks, rfl, rfl⟩ := ih others.symm
      exact ⟨chunk :: chunks, rfl, rfl⟩

/-- The message of a bulk is read as its samples. -/
theorem read_sentBulk {env : GatherEnv} (ids : PlainIds env) {type : CText} (plain : Plain type)
    {chunk : List Sample} (names : ∀ sample ∈ chunk, sample.PlainNames)
    (some : chunk ≠ []) {b : Nat}
    (made : bulkSamples env b = chunk.map fun sample => .some (sample.text type)) :
    Json.read (sentBulk env b).text = (chunk.mapM (sampleJson env type)).map .arr := by
  have objects : bulkObjects env (bulkSamples env b) =
      chunk.map fun sample => sampleObject env (sample.text type) := by
    rw [made, bulkObjects, List.filterMap_map, ← List.filterMap_eq_map]
    rfl
  rw [sentBulk, objects, closeArray_openArray (by simpa using some)]
  exact read_objects (fun sample member => shows_sample ids plain (names sample member)) some
    fun sample _ => by rw [sampleObject_fields]; rfl

/-- Bulks of results that are the texts of samples. -/
theorem readable_of_samples {env : GatherEnv} (ids : PlainIds env) (positive : 1 ≤ env.bulkSize)
    {type : CText} (plain : Plain type) {m : Nat} {samples : List Sample}
    (names : ∀ sample ∈ samples, sample.PlainNames)
    (results : (List.range (bulkStart env m)).map env.hook =
      samples.map fun sample => some (sample.text type)) :
    Readable env type ((List.range m).map (sentBulk env)) samples := by
  have shared := flatMap_bulkSamples env m
  rw [results, List.flatMap_def] at shared
  obtain ⟨chunks, rfl, split⟩ := exists_chunks shared
  have lengths := congrArg List.length split
  rw [List.length_map, List.length_map, List.length_range] at lengths
  have made : ∀ b (hb : b < chunks.length),
      bulkSamples env b = chunks[b].map fun sample => some (sample.text type) := by
    intro b hb
    have same := congrArg (·[b]?) split
    simpa [hb, lengths] using same
  have sizes : ∀ b (hb : b < chunks.length),
      chunks[b].length = bulkLength env.sleepOk env.bulkSize (bulkStart env b) := by
    intro b hb
    have length := congrArg List.length (made b hb)
    rw [bulkSamples, List.length_map, List.length_range', List.length_map] at length
    exact length.symm
  have bounds : ∀ chunk ∈ chunks, 1 ≤ chunk.length ∧ chunk.length ≤ env.bulkSize := by
    intro chunk member
    obtain ⟨b, hb, rfl⟩ := List.mem_iff_getElem.mp member
    rw [sizes b hb]
    exact ⟨one_le_bulkLength positive _, bulkLength_le _ _ _⟩
  refine ⟨chunks, rfl, bounds, ?_⟩
  apply List.ext_getElem
  · simp [lengths]
  · intro b _ hb
    rw [List.length_map] at hb
    have member : chunks[b] ∈ chunks := List.getElem_mem hb
    have read := read_sentBulk ids plain
      (fun sample inside => names sample (List.mem_flatten.mpr ⟨_, member, inside⟩))
      (List.length_pos_iff.mp (bounds _ member).1) (made b hb)
    simpa using read

/-- An initialization that succeeds has left plain names. -/
theorem initMfPlugin_initialized {H : HashTable CText} {c : Connector H}
    {machine : c.Found → PluginTable c.Value × c.Vars → Prop} (names : PlainNames c machine)
    {st : ParserState H} {conf : MfpData} {found : c.Found} {vars vars' : PluginVars c} {ret : Int}
    (labels : machine found vars.monitoringData)
    (init : initMfPlugin c st conf found vars = .ok (some (ret, vars'))) (ok : ret ≠ 0) :
    vars'.isInitialized = true ∧ PlainTable vars'.monitoringData.1 := by
  obtain ⟨conf', -, init⟩ := Fault.bind_eq_ok.mp init
  obtain ⟨param, -, init⟩ := Fault.bind_eq_ok.mp init
  obtain ⟨started, run, init⟩ := Fault.bind_eq_ok.mp init
  cases started with
  | none => cases init
  | some started =>
      obtain ⟨ret', s⟩ := started
      dsimp only at init
      split at init
      · rename_i failed
        cases init
        exact absurd failed ok
      · cases init
        exact ⟨rfl, names.init labels run ok⟩

/-- The configuration that asks for the memory in use. -/
def memoryConfig : ParserState (HashTable.alist CText) :=
  (mfpParse .init
    (.opened [⟨"mf_plugin_Linux_resources".toList, "RAM_usage_rate".toList, "on".toList⟩] 0)).1

/-- A machine on which a quarter of the memory is in use. -/
def memoryReading : ResourcesReading := ⟨5 / 2, none, 25, 0, none, none⟩

/-- The plugin before its initialization. -/
def resourcesVars : PluginVars (linuxResourcesConnector (HashTable.alist CText)) where
  confData := []
  param := ()
  monitoringData := (PluginMetrics.blank, ⟨fun _ => false, 0, 0, ⟨0, 0⟩, ⟨0, 0⟩, ⟨0, 0⟩, ⟨0, 0⟩,
    ⟨0, 0⟩, ⟨0, 0⟩⟩)
  isInitialized := false

/-- The text of each of its samples. -/
def memoryText : CText :=
  "\"type\":\"Linux_resources\",\"local_timestamp\":\"2500.0\",\"RAM_usage_rate\":25.000".toList

/-- The agent with bulks of two. -/
def memoryEnv : GatherEnv where
  applicationId := "app".toList
  experimentId := "AVq1".toList
  taskId := "task".toList
  platformId := "node".toList
  bulkSize := 2
  hook _ := some memoryText
  sleepOk _ := true

end PhantomMonitor
