import PhantomMonitor.Agent.PluginDiscover
import PhantomMonitor.Agent.Shutdown

/-!
# The calls of `mfp_get_value`

Where the agent and the plugins look up a value, and the array to which the value is copied.
-/

namespace PhantomMonitor

/-- A call of `mfp_get_value`. -/
structure ValueSite where
  sect : CText
  key : CText
  size : Nat
  deriving DecidableEq, Repr

/-- `server_name` (`main.c:240`, `:245`). -/
def serverSite : ValueSite := ⟨"generic".toList, "server".toList, 128⟩

/-- `platform_id` (`main.c:242`, `:249`). -/
def platformIdSite : ValueSite := ⟨"generic".toList, "platform_id".toList, 128⟩

/-- `tmp_string` (`thread_handler.c:79-80`). -/
def bulkSizeSite : ValueSite := ⟨"generic".toList, "bulk_size".toList, bulkSizeSize⟩

/-- `wait_some_seconds` (`thread_handler.c:148-149`). -/
def updateConfigurationSite : ValueSite :=
  ⟨"timings".toList, "update_configuration".toList, waitSize⟩

/-- `timing` (`thread_handler.c:209-210`). -/
def defaultTimingSite : ValueSite := ⟨"timings".toList, "default".toList, timingSize⟩

/-- `value` of a loaded plugin (`thread_handler.c:217-219`). -/
def timingSite (name : CText) : ValueSite := ⟨"timings".toList, name, timingSize⟩

/-- `value` of a plugin that is found (`plugin_discover.c:86-87`). -/
def switchSite (name : CText) : ValueSite := ⟨"plugins".toList, name, switchSize⟩

/-- `acme_name` (`mf_plugin_Board_power.c:56-57`). -/
def acmeNameSite : ValueSite := ⟨"mf_plugin_Board_power".toList, "ACME_BOARD_NAME".toList, 16⟩

/-- `str_num_cores` (`mf_plugin_CPU_perf.c:57-58`). -/
def numCoresSite : ValueSite := ⟨"mf_plugin_CPU_perf".toList, "MAX_CPU_CORES".toList, 10⟩

/-- All calls, with the plugins that are found and those that are loaded. -/
def valueSites (found loaded : List CText) : List ValueSite :=
  [serverSite, platformIdSite, bulkSizeSite, updateConfigurationSite, defaultTimingSite,
    acmeNameSite, numCoresSite] ++ found.map switchSite ++ loaded.map timingSite

/-- The call copies no more than the array holds. -/
def ValueSite.Fits {H : HashTable CText} (st : ParserState H) (site : ValueSite) : Prop :=
  ∃ value, readConfig site.size st site.sect site.key = .ok value

end PhantomMonitor
