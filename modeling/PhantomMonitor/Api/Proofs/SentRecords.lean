import PhantomMonitor.Api.MonitorFiles
import PhantomMonitor.Api.Proofs.UserMetrics

/-!
# What the server reads

A record of a data file is posted as an object: the fields of `static_string`, and the fields of the
line behind them. A reader of JSON gets the record back when each of its values is JSON; a value
that is not, such as the `nan` of a rate of nothing, makes the whole message unreadable, with up to
nine other records in it.
-/

namespace PhantomMonitor

open CText Batcher

/-! ## Records as objects -/

/-- All fields of a line. -/
def DataRecord.fields (r : DataRecord) : List Json.Field :=
  .string "local_timestamp".toList r.timestamp :: r.values

/-- The fields of `static_string`. -/
def staticFields (env : SendEnv) (experimentId : CText) (e : DirEntry) : List Json.Field :=
  [.string "WorkflowID".toList env.applicationId, .string "TaskID".toList env.componentId,
    .string "ExperimentID".toList experimentId, .string "type".toList e.name,
    .string "host".toList env.platformId]

/-- The identifiers of a call stand for themselves in a text. -/
structure PlainSend (env : SendEnv) (experimentId : CText) (e : DirEntry) : Prop where
  applicationId : Json.Plain env.applicationId
  componentId : Json.Plain env.componentId
  experimentId : Json.Plain experimentId
  name : Json.Plain e.name
  platformId : Json.Plain env.platformId

/-- The values of the record are what their texts show. -/
structure DataRecord.Fits (r : DataRecord) : Prop where
  timestamp : Json.Plain r.timestamp
  values : ∀ value ∈ r.values, value.Fits

/-- A record as a reader of the message should get it; `none` if one of its values is no JSON. -/
def recordJson (env : SendEnv) (experimentId : CText) (e : DirEntry) (r : DataRecord) :
    Option Json :=
  (r.values.mapM Json.Field.found).map fun values =>
    .obj ([("WorkflowID".toList, .str env.applicationId), ("TaskID".toList, .str env.componentId),
      ("ExperimentID".toList, .str experimentId), ("type".toList, .str e.name),
      ("host".toList, .str env.platformId), ("local_timestamp".toList, .str r.timestamp)] ++ values)

theorem DataRecord.text_eq (r : DataRecord) : r.text = Json.fieldsText [' '] r.fields := by
  have stamp : "\"local_timestamp\":\"".toList =
      '"' :: ("local_timestamp".toList ++ ['"', ':', '"']) := by decide
  have comma : ", \"".toList = [',', ' ', '"'] := by decide
  have colon : "\":".toList = ['"', ':'] := by decide
  rw [DataRecord.fields, Json.fieldsText_cons_flatMap]
  unfold DataRecord.text recordText
  simp only [stamp, comma, colon, Json.Field.string, Json.Field.written, List.flatMap_map,
    List.append_assoc, List.cons_append, List.nil_append]

theorem staticText_eq (env : SendEnv) (experimentId : CText) (e : DirEntry) :
    staticText env experimentId e = Json.fieldsText [' '] (staticFields env experimentId e) := by
  have first : "\"WorkflowID\":\"".toList = '"' :: ("WorkflowID".toList ++ ['"', ':', '"']) := by
    decide
  have second : "\", \"TaskID\":\"".toList =
      '"' :: ',' :: ' ' :: '"' :: ("TaskID".toList ++ ['"', ':', '"']) := by decide
  have third : "\", \"ExperimentID\":\"".toList =
      '"' :: ',' :: ' ' :: '"' :: ("ExperimentID".toList ++ ['"', ':', '"']) := by decide
  have fourth : "\", \"type\":\"".toList =
      '"' :: ',' :: ' ' :: '"' :: ("type".toList ++ ['"', ':', '"']) := by decide
  have fifth : "\", \"host\":\"".toList =
      '"' :: ',' :: ' ' :: '"' :: ("host".toList ++ ['"', ':', '"']) := by decide
  rw [staticFields, Json.fieldsText_cons_flatMap]
  unfold staticText
  simp only [first, second, third, fourth, fifth, Json.Field.string, Json.Field.written,
    List.flatMap_cons, List.flatMap_nil, List.append_assoc, List.cons_append, List.nil_append,
    List.append_nil]

theorem objectText_eq (env : SendEnv) (experimentId : CText) (e : DirEntry) (r : DataRecord) :
    objectText (staticText env experimentId e) r.text =
      '{' :: Json.fieldsText [' '] (staticFields env experimentId e ++ r.fields) ++ ['}'] := by
  have static : staticFields env experimentId e ≠ [] := List.cons_ne_nil _ _
  have line : r.fields ≠ [] := List.cons_ne_nil _ _
  have both := Json.fieldsText_append [' '] static line
  rw [objectText, staticText_eq, r.text_eq, both]
  simp only [List.append_assoc, List.cons_append, List.nil_append]

theorem plain_static : Json.Plain "WorkflowID".toList ∧ Json.Plain "TaskID".toList ∧
    Json.Plain "ExperimentID".toList ∧ Json.Plain "type".toList ∧ Json.Plain "host".toList ∧
    Json.Plain "local_timestamp".toList := by
  refine ⟨?_, ?_, ?_, ?_, ?_, ?_⟩ <;> exact Json.plain_of_all (by decide)

/-- The object of a record shows the record. -/
theorem shows_record {env : SendEnv} {experimentId : CText} {e : DirEntry}
    (ids : PlainSend env experimentId e) {r : DataRecord} (fits : r.Fits) :
    Json.Shows (objectText (staticText env experimentId e) r.text)
      (recordJson env experimentId e r) := by
  obtain ⟨workflow, task, experiment, type, host, stamp⟩ := plain_static
  have static : ∀ f ∈ staticFields env experimentId e, f.Fits := by
    simp only [staticFields, List.forall_mem_cons]
    exact ⟨Json.Field.string_fits workflow ids.applicationId,
      Json.Field.string_fits task ids.componentId,
      Json.Field.string_fits experiment ids.experimentId, Json.Field.string_fits type ids.name,
      Json.Field.string_fits host ids.platformId, List.forall_mem_nil _⟩
  have line : ∀ f ∈ r.fields, f.Fits :=
    List.forall_mem_cons.mpr ⟨Json.Field.string_fits stamp fits.timestamp, fits.values⟩
  have blank : ∀ c ∈ [' '], Json.isBlank c = true := List.forall_mem_singleton.mpr rfl
  have object := Json.shows_object blank (List.forall_mem_append.mpr ⟨static, line⟩)
    (List.append_ne_nil_of_left_ne_nil (List.cons_ne_nil _ _) _)
  rw [objectText_eq]
  have found : ((staticFields env experimentId e ++ r.fields).mapM Json.Field.found).map Json.obj =
      recordJson env experimentId e r := by
    unfold recordJson staticFields DataRecord.fields
    simp only [List.mapM_append, List.mapM_cons, List.mapM_nil]
    cases r.values.mapM Json.Field.found <;> rfl
  rw [← found]
  exact object

/-- A message is an array of its records, if all of them can be read. -/
theorem read_batchBody {env : SendEnv} {experimentId : CText} {e : DirEntry}
    (ids : PlainSend env experimentId e) {records : List DataRecord} (some : records ≠ [])
    (fits : ∀ r ∈ records, r.Fits) :
    Json.read (batchBody (staticText env experimentId e) (records.map DataRecord.text)) =
      (records.mapM (recordJson env experimentId e)).map .arr := by
  have read := Json.read_objects (fun r member => shows_record ids (fits r member)) some
    fun _ _ => rfl
  rw [batchBody, openBody, List.map_map]
  exact read

/-! ## Printed lines -/

theorem forall₂_forall_iff {α β : Type} {R : α → β → Prop} {P : α → Prop} {Q : β → Prop}
    {xs : List α} {ys : List β} (h : List.Forall₂ R xs ys) (same : ∀ x y, R x y → (Q y ↔ P x)) :
    (∀ y ∈ ys, Q y) ↔ ∀ x ∈ xs, P x := by
  induction h with
  | nil => simp
  | cons first rest ih => rw [List.forall_mem_cons, List.forall_mem_cons, same _ _ first, ih]

theorem floatField_fits {name : CText} (plain : Json.Plain name) (special : NotNumbers)
    (q : Option Rat) : (floatField special name q).Fits := by
  cases q with
  | none => exact ⟨plain, Json.refused_notNumber (special.listed name)⟩
  | some q => exact ⟨plain, Json.denotes_fixed (by decide) q⟩

theorem counterField_fits {name : CText} (plain : Json.Plain name) (n : BitVec 64) :
    (counterField name n).Fits := ⟨plain, Json.denotes_toDigits n.toNat⟩

/-- A line that the API prints into a data file. The texts of a user metric stand for themselves,
and its value is one that JSON understands, or one that it refuses. -/
inductive Printed : DataRecord → Prop where
  | resources (special : NotNumbers) (l : ResourcesLine) : Printed (l.record special)
  | disk (special : NotNumbers) (l : DiskLine) : Printed (l.record special)
  | power (special : NotNumbers) (l : MonitorLine) : Printed (l.record special)
  | user {timestamp metricName value : CText} {shown : Option Json} (stamp : Json.Plain timestamp)
      (name : Json.Plain metricName) (shows : Json.Shows value shown) :
      Printed (userDataRecord timestamp metricName value shown)

theorem plain_resources : Json.Plain "CPU_usage_rate".toList ∧ Json.Plain "RAM_usage_rate".toList ∧
    Json.Plain "swap_usage_rate".toList := by
  refine ⟨?_, ?_, ?_⟩ <;> exact Json.plain_of_all (by decide)

theorem plain_disk : Json.Plain "disk_read".toList ∧ Json.Plain "disk_write".toList ∧
    Json.Plain "disk_throughput".toList := by
  refine ⟨?_, ?_, ?_⟩ <;> exact Json.plain_of_all (by decide)

theorem plain_power : Json.Plain "total_CPU_power".toList ∧ Json.Plain "process_CPU_power".toList ∧
    Json.Plain "process_mem_power".toList ∧ Json.Plain "process_disk_power".toList := by
  refine ⟨?_, ?_, ?_, ?_⟩ <;> exact Json.plain_of_all (by decide)

theorem Printed.fits {r : DataRecord} (printed : Printed r) : r.Fits := by
  cases printed with
  | resources special l =>
      obtain ⟨cpu, ram, swap⟩ := plain_resources
      refine ⟨Json.plain_fixed 1 _, ?_⟩
      simp only [ResourcesLine.record, List.forall_mem_cons]
      exact ⟨floatField_fits cpu special _, floatField_fits ram special _,
        floatField_fits swap special _, List.forall_mem_nil _⟩
  | disk special l =>
      obtain ⟨read, write, throughput⟩ := plain_disk
      refine ⟨Json.plain_fixed 1 _, ?_⟩
      simp only [DiskLine.record, List.forall_mem_cons]
      exact ⟨counterField_fits read _, counterField_fits write _,
        floatField_fits throughput special _, List.forall_mem_nil _⟩
  | power special l =>
      obtain ⟨total, cpu, mem, disk⟩ := plain_power
      refine ⟨Json.plain_fixed 1 _, ?_⟩
      simp only [MonitorLine.record, List.forall_mem_cons]
      exact ⟨floatField_fits total special _, floatField_fits cpu special _,
        floatField_fits mem special _, floatField_fits disk special _, List.forall_mem_nil _⟩
  | user stamp name shows =>
      exact ⟨stamp, List.forall_mem_singleton.mpr ⟨name, shows⟩⟩

/-! ## The posts of a call -/

section

variable {perform : Nat → Bool} {env : SendEnv} {id : CText} {e : DirEntry}
  {records : List DataRecord} {posts : List Post} {go : Bool}

/-- The groups of ten records in order, up to the first POST that fails; a group with a value that
is no JSON cannot be read at all. -/
theorem posts_read
    (run : publishContent perform (staticText env id e) (dataText records) = .ok (posts, go))
    (ids : PlainSend env id e) (printed : ∀ record ∈ records, Printed record)
    (short : ∀ record ∈ records, ShortLine record.text) :
    posts.map (fun post => Json.read post.body) =
        (List.range posts.length).map (fun j =>
          ((group 10 records j).mapM (recordJson env id e)).map .arr) ∧
      posts.length ≤ groupCount 10 records ∧ (∀ j, j + 1 < posts.length → perform j = true) ∧
      ((∀ post ∈ posts, post.ok = true) → posts.length = groupCount 10 records) := by
  have batched := publishContent_batched run
  have lines : ∀ line ∈ records.map DataRecord.text, ShortLine line := List.forall_mem_map.mpr short
  have chopped : (readLines lineSize (dataText records)).map chop =
      records.map DataRecord.text := by
    simpa [readLines_nil, dataText] using readLines_short lines []
  rw [chopped] at batched
  have count : groupCount 10 (records.map DataRecord.text) = groupCount 10 records := by
    rw [groupCount, groupCount, List.length_map]
  refine ⟨?_, count ▸ batched.count, batched.stops, ?_⟩
  · conv => lhs; rw [batched.groups]
    rw [List.map_map]
    refine List.map_congr_left fun j inside => ?_
    have inside : j < groupCount 10 records :=
      Nat.lt_of_lt_of_le (List.mem_range.mp inside) (count ▸ batched.count)
    have some : group 10 records j ≠ [] := group_ne_nil (by decide) inside
    have texts : group 10 (records.map DataRecord.text) j =
        (group 10 records j).map DataRecord.text := by
      rw [group, group, List.map_take, List.map_drop]
    show Json.read (batchBody _ (group 10 (records.map DataRecord.text) j)) = _
    rw [texts]
    exact read_batchBody ids some fun record member =>
      (printed record (List.mem_of_mem_drop (List.mem_of_mem_take member))).fits
  · intro accepted
    cases go with
    | true => rw [(batched.finished rfl).1, count]
    | false =>
        obtain ⟨post, member, refused⟩ := batched.refused rfl
        rw [accepted post member] at refused
        cases refused

/-! ### Messages that cannot be read -/

/-- All values of the record are JSON. -/
def DataRecord.Valued (r : DataRecord) : Prop := ∀ value ∈ r.values, value.value.isSome = true

theorem isSome_mapM_iff {α β : Type} {f : α → Option β} {items : List α} :
    (items.mapM f).isSome = true ↔ ∀ item ∈ items, (f item).isSome = true := by
  induction items with
  | nil => simp
  | cons item items ih =>
      rw [List.mapM_cons, List.forall_mem_cons, ← ih]
      cases f item <;> cases items.mapM f <;> simp

theorem isSome_recordJson_iff {r : DataRecord} :
    (recordJson env id e r).isSome = true ↔ r.Valued := by
  rw [recordJson, Option.isSome_map, isSome_mapM_iff]
  unfold Json.Field.found DataRecord.Valued
  simp only [Option.isSome_map]

/-- When no POST fails, all messages are read exactly when all values of the file are JSON. -/
theorem posts_readable_iff
    (run : publishContent perform (staticText env id e) (dataText records) = .ok (posts, go))
    (ids : PlainSend env id e) (printed : ∀ record ∈ records, Printed record)
    (short : ∀ record ∈ records, ShortLine record.text)
    (accepted : ∀ post ∈ posts, post.ok = true) :
    (∀ post ∈ posts, (Json.read post.body).isSome = true) ↔ ∀ record ∈ records, record.Valued := by
  obtain ⟨read, -, -, all⟩ := posts_read run ids printed short
  have mapped : (∀ found ∈ posts.map fun post => Json.read post.body, found.isSome = true) ↔
      ∀ post ∈ posts, (Json.read post.body).isSome = true := List.forall_mem_map
  rw [← mapped, read, List.forall_mem_map, all accepted]
  simp only [List.mem_range, Option.isSome_map, isSome_mapM_iff, isSome_recordJson_iff]
  exact forall_group_iff (by decide)

/-- A file without a record that can be read has no message that can be read. -/
theorem posts_unreadable
    (run : publishContent perform (staticText env id e) (dataText records) = .ok (posts, go))
    (ids : PlainSend env id e) (printed : ∀ record ∈ records, Printed record)
    (short : ∀ record ∈ records, ShortLine record.text)
    (unvalued : ∀ record ∈ records, ¬ record.Valued) :
    ∀ post ∈ posts, Json.read post.body = none := by
  obtain ⟨read, count, -, -⟩ := posts_read run ids printed short
  have mapped : (∀ found ∈ posts.map fun post => Json.read post.body, found = none) ↔
      ∀ post ∈ posts, Json.read post.body = none := List.forall_mem_map
  rw [← mapped, read]
  refine List.forall_mem_map.mpr fun j inside => ?_
  have inside := Nat.lt_of_lt_of_le (List.mem_range.mp inside) count
  obtain ⟨record, others, shape⟩ :=
    List.exists_cons_of_ne_nil (group_ne_nil (by decide : 0 < 10) inside)
  have member : record ∈ records := by
    refine List.mem_of_mem_drop (List.mem_of_mem_take (?_ : record ∈ group 10 records j))
    rw [shape]
    exact List.mem_cons_self
  have missing : recordJson env id e record = none := by
    rw [← Option.not_isSome_iff_eq_none, isSome_recordJson_iff]
    exact unvalued record member
  rw [shape, List.mapM_cons, missing]
  rfl

end

/-! ## `mf_send` -/

/-- The posts of the visits of a call, as far as their files can be read. -/
theorem mfSend_visited {env : SendEnv} {r : Resources} {out : SendResult}
    (run : mfSend env r = .ok out) {v : Visit} (visited : v ∈ out.visits) {id : CText}
    (registered : out.ret = some id) (curl : v.entry.curlInit = true) {content : CText}
    (file : v.entry.kind = .regular content true) :
    ∃ go, publishContent v.entry.perform (staticText env id v.entry) content =
      .ok (v.posts, go) := by
  have opened : v.entry.transfer.content = some content := by
    simp [DirEntry.transfer, file]
  cases mfSend_ok run with
  | stopped _ _ none => rw [none] at visited; cases visited
  | through entries r₁ r₂ _ _ loop ret _ =>
      obtain rfl := Option.some.inj (registered.symm.trans ret)
      exact (sendEntries_posts (metricURL_ne_nil env) loop).2 v visited content curl opened

/-- What the server reads of the files of a call: for each of them the groups of ten records in
order, up to the first POST that fails; a group with a value that is no JSON cannot be read at
all. -/
theorem mfSend_records_read {env : SendEnv} {r : Resources} {out : SendResult}
    (run : mfSend env r = .ok out) {v : Visit} (visited : v ∈ out.visits) {id : CText}
    (registered : out.ret = some id) (ids : PlainSend env id v.entry)
    (curl : v.entry.curlInit = true) {records : List DataRecord}
    (file : v.entry.kind = .regular (dataText records) true)
    (printed : ∀ record ∈ records, Printed record)
    (short : ∀ record ∈ records, ShortLine record.text) :
    v.posts.map (fun post => Json.read post.body) =
        (List.range v.posts.length).map (fun j =>
          ((group 10 records j).mapM (recordJson env id v.entry)).map .arr) ∧
      v.posts.length ≤ groupCount 10 records ∧
      (∀ j, j + 1 < v.posts.length → v.entry.perform j = true) ∧
      ((∀ post ∈ v.posts, post.ok = true) → v.posts.length = groupCount 10 records) := by
  obtain ⟨go, content⟩ := mfSend_visited run visited registered curl file
  exact posts_read content ids printed short

/-! ### A machine without swap -/

theorem nan_listed (name : CText) : (fun _ => "nan".toList : CText → CText) name ∈
    Json.notNumberTexts :=
  List.mem_cons_self

def nanTexts : NotNumbers := ⟨fun _ => "nan".toList, nan_listed⟩

/-- A line of the resources monitor; the machine may be without swap. -/
def oneLine (swap : Option Rat) : DataRecord :=
  ResourcesLine.record nanTexts ⟨1000, ⟨some 50, some 25, swap⟩⟩

/-- A session with one line of the resources monitor. -/
def oneLineEnv (swap : Option Rat) : SendEnv where
  server := "http://localhost".toList
  applicationId := "app".toList
  componentId := "task".toList
  platformId := "node".toList
  dataPath := "/tmp/7".toList
  keepLocalDataFlag := 0
  experiment := ⟨true, ["AVq1".toList], true⟩
  dir := some [⟨"resources_usage".toList, .regular (dataText [oneLine swap]) true, true,
    fun _ => true⟩]

theorem oneLineEnv_sent : ∃ out, mfSend (oneLineEnv none) ⟨0, 1⟩ = .ok out ∧
    out.ret = some "AVq1".toList ∧
    ∃ v ∈ out.visits, PlainSend (oneLineEnv none) "AVq1".toList v.entry ∧
      v.entry.curlInit = true ∧ v.entry.kind = .regular (dataText [oneLine none]) true ∧
      v.posts.map Post.ok = [true] := by
  have answered : (mfSend (oneLineEnv none) ⟨0, 1⟩).map SendResult.ret =
      .ok (some "AVq1".toList) := by decide +kernel
  have outcome : (mfSend (oneLineEnv none) ⟨0, 1⟩).map (fun out => out.visits.map
      fun v => (v.entry.name, v.entry.curlInit, v.entry.kind, v.posts.map Post.ok)) =
      .ok [("resources_usage".toList, true, .regular (dataText [oneLine none]) true, [true])] := by
    decide +kernel
  obtain ⟨out, run, visits⟩ := Fault.map_eq_ok.mp outcome
  rw [run] at answered
  obtain ⟨v, visited, seen⟩ := List.mem_map.mp (visits ▸ List.mem_cons_self)
  obtain ⟨name, seen⟩ := Prod.mk.inj seen
  obtain ⟨curl, seen⟩ := Prod.mk.inj seen
  obtain ⟨kind, accepted⟩ := Prod.mk.inj seen
  have ids : PlainSend (oneLineEnv none) "AVq1".toList v.entry := by
    refine ⟨?_, ?_, ?_, ?_, ?_⟩
    · exact Json.plain_of_all (by decide)
    · exact Json.plain_of_all (by decide)
    · exact Json.plain_of_all (by decide)
    · rw [name]
      exact Json.plain_of_all (by decide)
    · exact Json.plain_of_all (by decide)
  exact ⟨out, run, Except.ok.inj answered, v, visited, ids, curl, kind, accepted⟩

theorem mfSend_records_read_swap : ∃ out, mfSend (oneLineEnv none) ⟨0, 1⟩ = .ok out ∧
    ∃ v ∈ out.visits, v.posts.map (fun post => Json.read post.body) = [none] := by
  obtain ⟨out, run, ret, v, visited, ids, curl, kind, accepted⟩ := oneLineEnv_sent
  have short : ∀ record ∈ [oneLine none], ShortLine record.text := by
    refine List.forall_mem_singleton.mpr ?_
    unfold ShortLine
    decide +kernel
  obtain ⟨read, -⟩ := mfSend_records_read run visited ret ids curl kind
    (List.forall_mem_singleton.mpr (.resources nanTexts _)) short
  have length : v.posts.length = 1 := by simpa using congrArg List.length accepted
  rw [length] at read
  exact ⟨out, run, v, visited, read⟩

end PhantomMonitor
