import PhantomMonitor.Api.Proofs.MonitorThreads

/-!
# From the monitors to the server

The threads of a session sample at their own pace, `mf_end` waits for them, and `mf_send` posts what
is in their files. The server reads the lines that a thread has printed, one object for each, in the
order in which they were printed.
-/

namespace PhantomMonitor

open CText Batcher

section

variable {p : Nat → Rat} {samplingIntervals : Nat → Int} {names : Nat → CText} {env : SendEnv}
  {files : CText → CText} {count : Nat}

end

/-- The line that the session with the disk monitor leaves in the file. -/
def diskText : CText :=
  "\"local_timestamp\":\"1000.0\", \"disk_read\":5, ".toList ++
    "\"disk_write\":7, \"disk_throughput\":12.000\n".toList

/-- The call of `mf_send` after that session. -/
def diskEnv : SendEnv where
  server := "http://localhost".toList
  applicationId := "app".toList
  componentId := "task".toList
  platformId := "node".toList
  dataPath := "/tmp/7".toList
  keepLocalDataFlag := 0
  experiment := ⟨true, ["AVq1".toList], true⟩
  dir := some [⟨metricName2, .regular diskText true, true, fun _ => true⟩]

theorem diskEnv_sent : ∃ out, mfSend diskEnv ⟨0, 1⟩ = .ok out ∧ out.ret = some "AVq1".toList ∧
    ∃ v ∈ out.visits, PlainSend diskEnv "AVq1".toList v.entry ∧ v.entry.curlInit = true ∧
      v.entry.name = metricName2 ∧ v.entry.kind = .regular diskText true := by
  have answered : (mfSend diskEnv ⟨0, 1⟩).map SendResult.ret = .ok (some "AVq1".toList) := by
    decide +kernel
  have outcome : (mfSend diskEnv ⟨0, 1⟩).map (fun out => out.visits.map
      fun v => (v.entry.name, v.entry.curlInit, v.entry.kind)) =
      .ok [(metricName2, true, .regular diskText true)] := by
    decide +kernel
  obtain ⟨out, run, visits⟩ := Fault.map_eq_ok.mp outcome
  rw [run] at answered
  obtain ⟨v, visited, seen⟩ := List.mem_map.mp (visits ▸ List.mem_cons_self)
  obtain ⟨name, seen⟩ := Prod.mk.inj seen
  obtain ⟨curl, kind⟩ := Prod.mk.inj seen
  have ids : PlainSend diskEnv "AVq1".toList v.entry := by
    refine ⟨?_, ?_, ?_, ?_, ?_⟩
    · exact Json.plain_of_all (by decide)
    · exact Json.plain_of_all (by decide)
    · exact Json.plain_of_all (by decide)
    · rw [name]
      exact Json.plain_of_all (by decide)
    · exact Json.plain_of_all (by decide)
  exact ⟨out, run, Except.ok.inj answered, v, visited, ids, curl, name, kind⟩

end PhantomMonitor
