import PhantomMonitor.Agent.Timings
import PhantomMonitor.Misc.Fifo

/-!
# Loading the plugins

`discover_plugins` runs through the plugin directory and loads the libraries that are not switched
off (`plugin_discover.c`). The init function of a plugin registers the plugin's hook with the plugin
manager, a queue (`plugin_manager.c`). `startThreads` then takes as many hooks from the queue as
plugins were counted (`thread_handler.c`), and hook `t` samples with the interval of
`plugins_name[t]`.

The queue is the EXCESS queue, given as `Q`. The libraries are the environment: what `dlopen` and
`dlsym` find in a file, and what the init function returns and registers.
-/

namespace PhantomMonitor

open CText

/-- `PluginHookType` (`plugin_manager.h`). -/
structure PluginHookType (Hook : Type) where
  name : CText
  hook : Hook
  deriving DecidableEq, Repr

/-- What a call of an init function returns and registers. The init functions register their hook
just before they return a positive value. -/
structure PluginInit (Hook : Type) where
  rc : Int
  registered : Option (PluginHookType Hook)
  registers : registered.isSome = true ↔ 0 < rc

/-- What `dlopen` and `dlsym` find in a file. -/
inductive PluginLibrary (Hook : Type) where
  | notLoadable
  | noInit
  | loaded (init : PluginInit Hook)

/-- An entry of the plugin directory. -/
structure PluginFile (Hook : Type) where
  dName : CText
  library : PluginLibrary Hook

/-- The plugin directory, in the order of `readdir`. -/
structure PluginDir (Hook : Type) where
  entries : List (PluginFile Hook)
  distinct : (entries.map PluginFile.dName).Nodup
  noSlash : ∀ file ∈ entries, '/' ∉ file.dName

/-- The size of the buffer for a switch of the configuration (`plugin_discover.c:86`). -/
def switchSize : Nat := 20

/-- The size of `fullpath` (`plugin_discover.c:93`). -/
def fullpathSize : Nat := 200

/-- The size of an entry of `plugins_name` (`plugin_discover.c:98`). -/
def pluginNameSize : Nat := 256

/-- The size of `pluginLocation` (`thread_handler.c:68`). -/
def locationSize : Nat := 256

/-- The size of the buffer for `bulk_size` (`thread_handler.c:79`). -/
def bulkSizeSize : Nat := 20

/-- The name of the plugin in a file, if it is a library (`plugin_discover.c:71-79`). -/
def pluginName (dName : CText) : Option CText :=
  match strrchr '.' dName with
  | none => none
  | some (before, found) =>
      if found = ".so".toList then
        match strrchr '/' before with
        | none => some before
        | some (_, slashed) => some (slashed.drop 1)
      else none

section

variable {Hook : Type} {Q : FifoQueue (PluginHookType Hook)} {H : HashTable CText}

/-- `PluginManager` (`plugin_manager.h`). -/
structure PluginManager (Q : FifoQueue (PluginHookType Hook)) where
  hookQueue : Q.Queue

/-- `PluginManager_new` (`plugin_manager.c:24-28`). -/
def pluginManagerNew : PluginManager Q := ⟨Q.create⟩

/-- `PluginManager_register_hook` (`plugin_manager.c:38-47`). -/
def pluginManagerRegisterHook (pm : PluginManager Q) (hookType : PluginHookType Hook) :
    PluginManager Q :=
  ⟨Q.enqueue pm.hookQueue hookType⟩

/-- The variables of `plugin_discover.c`, and the handles of the loaded libraries. `plugins_name`
has room for the names of the loaded plugins. -/
structure Discovery (Q : FifoQueue (PluginHookType Hook)) where
  pm : PluginManager Q
  pluginCount : Nat
  pluginsName : Nat → Option CText
  handleList : List CText
  fits : pluginCount ≤ maxPlugins

/-- The variables before any call. -/
def Discovery.init : Discovery Q := ⟨pluginManagerNew, 0, fun _ => none, [], Nat.zero_le _⟩

/-- `load_plugin` (`plugin_discover.c:140-173`). A handle is shown as the path of its file. -/
def loadPlugin (library : PluginLibrary Hook) (fullpath : CText) (pm : PluginManager Q) :
    Option CText × PluginManager Q :=
  match library with
  | .notLoadable => (none, pm)
  | .noInit => (none, pm)
  | .loaded init =>
      let pm := match init.registered with
        | none => pm
        | some hookType => pluginManagerRegisterHook pm hookType
      if init.rc ≤ 0 then (none, pm) else (some fullpath, pm)

/-- The load of a plugin that is not switched off (`plugin_discover.c:93-107`). -/
def discoverPlugin (dirname name : CText) (file : PluginFile Hook) (d : Discovery Q) :
    Except Fault (Discovery Q) := do
  let fullpath ← store fullpathSize (dirname ++ '/' :: file.dName)
  if h : d.pluginCount < maxPlugins then do
    let stored ← store pluginNameSize name
    let pluginsName := Function.update d.pluginsName d.pluginCount (some stored)
    match loadPlugin file.library fullpath d.pm with
    | (none, pm) => return { d with pm, pluginsName }
    | (some handle, pm) =>
        return { pm, pluginsName, pluginCount := d.pluginCount + 1,
                 handleList := handle :: d.handleList, fits := h }
  else .error .outOfBounds

/-- The body of the loop over the directory (`plugin_discover.c:70-110`). -/
def discoverEntry (st : ParserState H) (dirname : CText) (d : Discovery Q)
    (file : PluginFile Hook) : Except Fault (Discovery Q) :=
  match pluginName file.dName with
  | none => .ok d
  | some name => do
      let value ← readConfig switchSize st "plugins".toList name
      if value = "off".toList then return d else discoverPlugin dirname name file d

/-- `discover_plugins` (`plugin_discover.c:58-120`); `dir` is `none` when the directory cannot be
opened. A list without handles stands for the NULL pointer. -/
def discoverPlugins (st : ParserState H) (dirname : CText) (dir : Option (PluginDir Hook))
    (d : Discovery Q) : Except Fault (Discovery Q) :=
  match dir with
  | none => .ok d
  | some dir => dir.entries.foldlM (discoverEntry st dirname) d

/-- `PluginManager_get_hook` (`plugin_manager.c:50-66`): `none` is the NULL pointer. -/
def pluginManagerGetHook (pm : PluginManager Q) : Option Hook × PluginManager Q :=
  match Q.tryDequeue pm.hookQueue with
  | none => (none, pm)
  | some (hookType, hookQueue) => (some hookType.hook, ⟨hookQueue⟩)

/-- The loop that fills `hooks` (`thread_handler.c:87-90`). -/
def fillHooks : Nat → PluginManager Q → List (Option Hook) × PluginManager Q
  | 0, pm => ([], pm)
  | n + 1, pm =>
      let (hook, pm) := pluginManagerGetHook pm
      let (hooks, pm) := fillHooks n pm
      (hook :: hooks, pm)

/-- The first `pluginCount` entries of `plugins_name`. -/
def Discovery.loaded (d : Discovery Q) : LoadedPlugins where
  names := (List.range d.pluginCount).map d.pluginsName
  fits := by
    rw [List.length_map, List.length_range]
    exact d.fits

/-- What `startThreads` has set up when it creates the threads. -/
structure Started (Q : FifoQueue (PluginHookType Hook)) where
  discovery : Discovery Q
  timings : Timings
  bulkSize : Int
  hooks : List (Option Hook)

/-- `startThreads` up to the creation of the threads (`thread_handler.c:61-90`); `pwd` is the
directory of the agent, and `dir` the directory of its plugins. -/
def startThreads (st : ParserState H) (pwd : CText) (dir : Option (PluginDir Hook)) (t : Timings) :
    Except Fault (Started Q) := do
  let pluginLocation ← store locationSize (pwd ++ "/plugins".toList)
  let discovery ← discoverPlugins st pluginLocation dir .init
  let timings ← initTimings discovery.loaded st t
  let tmpString ← readConfig bulkSizeSize st "generic".toList "bulk_size".toList
  let (hooks, pm) := fillHooks discovery.pluginCount discovery.pm
  return ⟨{ discovery with pm }, timings, atoi tmpString, hooks⟩

end

end PhantomMonitor
