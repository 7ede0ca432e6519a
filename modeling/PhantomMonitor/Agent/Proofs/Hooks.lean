import PhantomMonitor.Agent.PluginDiscover
import PhantomMonitor.Agent.Proofs.Intervals

/-!
# Hooks and plugin names

The name of a plugin is written before the plugin is known to load, its hook goes through the queue,
and the count is advanced apart from both. All three follow the list of the plugins that were
loaded: the count is its length, the names its first components, the queue its second ones.
-/

namespace PhantomMonitor

open CText

/-! ## Configured values -/

section

variable {H : HashTable CText}

/-- The value under a key, if there is one, fits a buffer of the given size. -/
def ConfigFits (size : Nat) (st : ParserState H) (sect key : CText) : Prop :=
  ∀ text, st.value sect key = some text → text.length < size

theorem readConfig_ok_iff {size : Nat} {st : ParserState H} {sect key : CText} :
    (∃ value, readConfig size st sect key = .ok value) ↔ ConfigFits size st sect key := by
  unfold ConfigFits
  cases hvalue : st.value sect key with
  | none =>
      constructor
      · intro _ text found
        cases found
      · intro _
        exact ⟨_, readConfig_none hvalue⟩
  | some text =>
      have hlength : (strcpy (List.replicate size nul) text).length ≤ size ↔
          text.length < size := by
        unfold strcpy
        rw [List.length_append, List.length_cons, List.length_drop, List.length_replicate]
        omega
      unfold readConfig
      rw [mfpGetValue_eq, hvalue]
      dsimp only
      constructor
      · rintro ⟨value, hread⟩ text' found
        cases found
        by_contra long
        rw [if_neg fun short => long (hlength.mp short)] at hread
        cases hread
      · intro fits
        exact ⟨_, if_pos (hlength.mpr (fits text rfl))⟩

theorem initTiming_ok_iff {st : ParserState H} {defaultTiming : Int} {t : Timings} {i : Nat}
    {name : CText} :
    (∃ t', initTiming st defaultTiming t i name = .ok t') ↔
      ConfigFits timingSize st "timings".toList name := by
  rw [← readConfig_ok_iff]
  unfold initTiming
  constructor
  · rintro ⟨t', run⟩
    obtain ⟨value, hread, -⟩ := Fault.bind_eq_ok.mp run
    exact ⟨value, hread⟩
  · rintro ⟨value, hread⟩
    rw [hread]
    by_cases hnil : value = []
    · exact ⟨_, if_pos hnil⟩
    · exact ⟨_, if_neg hnil⟩

theorem initTimingsFrom_ok_iff {st : ParserState H} {defaultTiming : Int}
    {names : List (Option CText)} {i : Nat} {t : Timings} :
    (∃ t', initTimingsFrom st defaultTiming names i t = .ok t') ↔
      ∀ name, some name ∈ names → ConfigFits timingSize st "timings".toList name := by
  induction names generalizing i t with
  | nil => exact ⟨fun _ name member => absurd member List.not_mem_nil, fun _ => ⟨t, rfl⟩⟩
  | cons first names ih =>
      cases first with
      | none =>
          rw [initTimingsFrom, ih]
          simp only [List.mem_cons, reduceCtorEq, false_or]
      | some own =>
          simp only [initTimingsFrom, Fault.bind_eq_ok, List.mem_cons, Option.some.injEq]
          constructor
          · rintro ⟨t', t₁, hfirst, hrest⟩ name (rfl | member)
            · exact initTiming_ok_iff.mp ⟨t₁, hfirst⟩
            · exact ih.mp ⟨t', hrest⟩ name member
          · intro fits
            obtain ⟨t₁, hfirst⟩ := initTiming_ok_iff.mpr (fits own (.inl rfl))
            obtain ⟨t', hrest⟩ := ih.mpr fun name member => fits name (.inr member)
            exact ⟨t', t₁, hfirst, hrest⟩

/-- `init_timings` stays within its buffers exactly when the timings that it reads fit them. -/
theorem initTimings_ok_iff {plugins : LoadedPlugins} {st : ParserState H} {t : Timings} :
    (∃ t', initTimings plugins st t = .ok t') ↔
      ConfigFits timingSize st "timings".toList "default".toList ∧
        ∀ name, some name ∈ plugins.names → ConfigFits timingSize st "timings".toList name := by
  rw [← readConfig_ok_iff]
  unfold initTimings
  constructor
  · rintro ⟨t', run⟩
    obtain ⟨timing, hread, hrest⟩ := Fault.bind_eq_ok.mp run
    exact ⟨⟨timing, hread⟩, initTimingsFrom_ok_iff.mp ⟨t', hrest⟩⟩
  · rintro ⟨⟨timing, hread⟩, fits⟩
    obtain ⟨t', hrest⟩ := initTimingsFrom_ok_iff.mpr fits
    exact ⟨t', Fault.bind_eq_ok.mpr ⟨timing, hread, hrest⟩⟩

end

/-! ## Names of plugins -/

theorem pluginName_eq {dName name : CText} (hslash : '/' ∉ dName)
    (h : pluginName dName = some name) : name ++ ".so".toList = dName := by
  unfold pluginName at h
  cases hdot : strrchr '.' dName with
  | none =>
      rw [hdot] at h
      cases h
  | some split =>
      obtain ⟨before, found⟩ := split
      have whole := append_of_strrchr hdot
      have plain : strrchr '/' before = none :=
        strrchr_eq_none fun member => hslash (whole ▸ List.mem_append_left _ member)
      rw [hdot] at h
      dsimp only at h
      split at h
      · rename_i suffix
        rw [plain] at h
        cases h
        rw [← suffix, whole]
      · cases h

/-! ## The plugins that are loaded -/

section

variable {Hook : Type} {Q : FifoQueue (PluginHookType Hook)} {H : HashTable CText}

/-- What a library registers when its init function succeeds. -/
def PluginLibrary.hookType : PluginLibrary Hook → Option (PluginHookType Hook)
  | .notLoadable => none
  | .noInit => none
  | .loaded init => if 0 < init.rc then init.registered else none

/-- The plugin is switched off in the configuration. -/
def SwitchedOff (st : ParserState H) (name : CText) : Prop :=
  readConfig switchSize st "plugins".toList name = .ok "off".toList

instance (st : ParserState H) (name : CText) : Decidable (SwitchedOff st name) :=
  inferInstanceAs (Decidable (_ = _))

/-- The name of the plugin in a file, and what it has registered, when it is switched on and its
init function succeeds. -/
def loadedPlugin (st : ParserState H) (file : PluginFile Hook) :
    Option (CText × PluginHookType Hook) :=
  match pluginName file.dName with
  | none => none
  | some name =>
      if SwitchedOff st name then none
      else file.library.hookType.map fun hookType => (name, hookType)

/-- The plugins of a directory that are loaded, in the order of the directory. -/
def loadedPlugins (st : ParserState H) (dir : Option (PluginDir Hook)) :
    List (CText × PluginHookType Hook) :=
  match dir with
  | none => []
  | some dir => dir.entries.filterMap (loadedPlugin st)

/-- The texts made for a file fit their buffers: the value of its switch and, unless it is switched
off, its path. -/
def FileFits (st : ParserState H) (dirname : CText) (file : PluginFile Hook) : Prop :=
  ∀ name, pluginName file.dName = some name →
    ConfigFits switchSize st "plugins".toList name ∧
      (¬ SwitchedOff st name → (dirname ++ '/' :: file.dName).length < fullpathSize)

/-- The variables hold the plugins that were loaded so far. -/
structure Discovery.Holds (d : Discovery Q) (plugins : List (CText × PluginHookType Hook)) :
    Prop where
  count : d.pluginCount = plugins.length
  names : d.loaded.names = plugins.map fun plugin => some plugin.1
  queued : Q.items d.pm.hookQueue = plugins.map Prod.snd

theorem loadPlugin_eq (library : PluginLibrary Hook) (fullpath : CText) (pm : PluginManager Q) :
    loadPlugin library fullpath pm =
      match library.hookType with
      | none => (none, pm)
      | some hookType => (some fullpath, pluginManagerRegisterHook pm hookType) := by
  cases library with
  | notLoadable => rfl
  | noInit => rfl
  | loaded init =>
      obtain ⟨rc, registered, registers⟩ := init
      cases registered with
      | none =>
          have failed : rc ≤ 0 :=
            Int.not_lt.mp fun positive => by simpa using registers.mpr positive
          simp [loadPlugin, PluginLibrary.hookType, failed, Int.not_lt.mpr failed]
      | some hookType =>
          have positive : 0 < rc := registers.mp rfl
          simp [loadPlugin, PluginLibrary.hookType, positive, Int.not_le.mpr positive]

/-- A name that is written past the count is not one of the loaded ones. -/
theorem Discovery.Holds.written {d : Discovery Q} {plugins : List (CText × PluginHookType Hook)}
    (h : d.Holds plugins) (name : CText) :
    Discovery.Holds { d with
      pluginsName := Function.update d.pluginsName d.pluginCount (some name) } plugins := by
  refine ⟨h.count, ?_, h.queued⟩
  rw [← h.names]
  apply List.map_congr_left
  intro k hk
  exact Function.update_of_ne (Nat.ne_of_lt (List.mem_range.mp hk)) _ _

/-- The plugin whose name was written is loaded. -/
theorem Discovery.Holds.loaded {d : Discovery Q} {plugins : List (CText × PluginHookType Hook)}
    (h : d.Holds plugins) {name : CText} (hname : d.pluginsName d.pluginCount = some name)
    (hookType : PluginHookType Hook) (handle : CText) (room : d.pluginCount < maxPlugins) :
    Discovery.Holds (Q := Q)
      ⟨pluginManagerRegisterHook d.pm hookType, d.pluginCount + 1, d.pluginsName,
        handle :: d.handleList, room⟩ (plugins ++ [(name, hookType)]) := by
  refine ⟨by simp [h.count], ?_, by simp [pluginManagerRegisterHook, Q.items_enqueue, h.queued]⟩
  have names := h.names
  simp only [Discovery.loaded] at names ⊢
  rw [List.range_succ, List.map_append, List.map_append, names]
  simp [hname]

/-- One plugin that is switched on. -/
theorem discoverPlugin_ok {d : Discovery Q} {plugins : List (CText × PluginHookType Hook)}
    (h : d.Holds plugins) (room : d.pluginCount < maxPlugins) {dirname name : CText}
    {file : PluginFile Hook} (path : (dirname ++ '/' :: file.dName).length < fullpathSize)
    (short : name.length < pluginNameSize) :
    ∃ d', discoverPlugin dirname name file d = .ok d' ∧
      d'.Holds (plugins ++
        (file.library.hookType.map fun hookType => (name, hookType)).toList) := by
  have written := h.written name
  unfold discoverPlugin
  rw [store_bind, if_pos path, dif_pos room, store_bind, if_pos short, loadPlugin_eq]
  cases file.library.hookType with
  | none => exact ⟨_, rfl, by simpa using written⟩
  | some hookType => exact ⟨_, rfl, written.loaded (by simp) hookType _ room⟩

theorem pluginName_length_le {dName name : CText} (hslash : '/' ∉ dName)
    (h : pluginName dName = some name) : name.length ≤ dName.length := by
  rw [← pluginName_eq hslash h, List.length_append]
  exact Nat.le_add_right _ _

/-- One entry of the directory whose texts fit. -/
theorem discoverEntry_ok {st : ParserState H} {dirname : CText} {file : PluginFile Hook}
    (fits : FileFits st dirname file) (hslash : '/' ∉ file.dName) {d : Discovery Q}
    {plugins : List (CText × PluginHookType Hook)} (h : d.Holds plugins)
    (room : d.pluginCount < maxPlugins) :
    ∃ d', discoverEntry st dirname d file = .ok d' ∧
      d'.Holds (plugins ++ (loadedPlugin st file).toList) := by
  unfold discoverEntry loadedPlugin
  cases hname : pluginName file.dName with
  | none => exact ⟨d, rfl, by simpa using h⟩
  | some name =>
      obtain ⟨switch, path⟩ := fits name hname
      obtain ⟨value, hvalue⟩ := readConfig_ok_iff.mpr switch
      dsimp only
      rw [hvalue]
      by_cases hoff : value = "off".toList
      · have off : SwitchedOff st name := by rw [SwitchedOff, hvalue, hoff]
        rw [if_pos off]
        exact ⟨d, if_pos hoff, by simpa using h⟩
      · have on : ¬ SwitchedOff st name := by
          intro off
          rw [SwitchedOff, hvalue] at off
          exact hoff (Except.ok.inj off)
        have short : name.length < pluginNameSize := by
          have := pluginName_length_le hslash hname
          have := path on
          simp only [List.length_append, List.length_cons, fullpathSize, pluginNameSize] at this ⊢
          omega
        obtain ⟨d', hload, holds⟩ := discoverPlugin_ok h room (path on) short
        rw [if_neg on]
        exact ⟨d', (if_neg hoff).trans hload, holds⟩

/-- An entry that was gone through without a fault had texts that fit. -/
theorem fileFits_of_ok {st : ParserState H} {dirname : CText} {file : PluginFile Hook}
    {d d' : Discovery Q} (h : discoverEntry st dirname d file = .ok d') :
    FileFits st dirname file := by
  intro name hname
  simp only [discoverEntry, hname] at h
  obtain ⟨value, hvalue, hrest⟩ := Fault.bind_eq_ok.mp h
  refine ⟨readConfig_ok_iff.mp ⟨value, hvalue⟩, ?_⟩
  intro on
  have hoff : value ≠ "off".toList := by
    rintro rfl
    exact on hvalue
  rw [if_neg hoff, discoverPlugin, store_bind] at hrest
  by_contra long
  rw [if_neg long] at hrest
  cases hrest

/-- The loop over the directory. -/
theorem discoverEntries_ok {st : ParserState H} {dirname : CText} {files : List (PluginFile Hook)}
    (fits : ∀ file ∈ files, FileFits st dirname file) (hslash : ∀ file ∈ files, '/' ∉ file.dName)
    {d : Discovery Q} {plugins : List (CText × PluginHookType Hook)} (h : d.Holds plugins)
    (room : plugins.length + (files.filterMap (loadedPlugin st)).length < maxPlugins) :
    ∃ d', files.foldlM (discoverEntry st dirname) d = .ok d' ∧
      d'.Holds (plugins ++ files.filterMap (loadedPlugin st)) := by
  induction files generalizing d plugins with
  | nil => exact ⟨d, rfl, by simpa using h⟩
  | cons file files ih =>
      have first : (file :: files).filterMap (loadedPlugin st) =
          (loadedPlugin st file).toList ++ files.filterMap (loadedPlugin st) := by
        cases hload : loadedPlugin st file <;> simp [hload]
      rw [first, List.length_append] at room
      have here : d.pluginCount < maxPlugins := by
        rw [h.count]
        omega
      obtain ⟨d₁, hfirst, holds₁⟩ := discoverEntry_ok (fits file List.mem_cons_self)
        (hslash file List.mem_cons_self) h here
      obtain ⟨d', hrest, holds⟩ := ih (fun f member => fits f (List.mem_cons_of_mem _ member))
        (fun f member => hslash f (List.mem_cons_of_mem _ member)) holds₁
        (by rw [List.length_append]; omega)
      refine ⟨d', ?_, ?_⟩
      · rw [List.foldlM_cons, hfirst]
        exact hrest
      · rwa [first, ← List.append_assoc]

theorem filesFit_of_ok {st : ParserState H} {dirname : CText} {files : List (PluginFile Hook)}
    {d d' : Discovery Q} (h : files.foldlM (discoverEntry st dirname) d = .ok d') :
    ∀ file ∈ files, FileFits st dirname file := by
  induction files generalizing d with
  | nil => simp
  | cons file files ih =>
      rw [List.foldlM_cons] at h
      obtain ⟨d₁, hfirst, hrest⟩ := Fault.bind_eq_ok.mp h
      exact List.forall_mem_cons.mpr ⟨fileFits_of_ok hfirst, ih hrest⟩

/-! ## The hooks -/

theorem fillHooks_eq (n : Nat) (pm : PluginManager Q) :
    (fillHooks n pm).1 =
      (Q.drain n pm.hookQueue).1.map (Option.map PluginHookType.hook) := by
  induction n generalizing pm with
  | zero => rfl
  | succ n ih =>
      unfold fillHooks pluginManagerGetHook FifoQueue.drain
      cases Q.tryDequeue pm.hookQueue with
      | none => simp [ih]
      | some found => simp [ih]

/-- As many hooks as plugins are taken from the queue, in the order of the plugins. -/
theorem Discovery.Holds.hooks {d : Discovery Q} {plugins : List (CText × PluginHookType Hook)}
    (h : d.Holds plugins) :
    (fillHooks d.pluginCount d.pm).1 = plugins.map fun plugin => some plugin.2.hook := by
  have all : (Q.items d.pm.hookQueue).length = d.pluginCount := by
    rw [h.queued, List.length_map, h.count]
  rw [fillHooks_eq, Q.drain_items all, h.queued]
  simp

/-- The tables of the agent belong to the given plugins: they are counted, their names stand in
`plugins_name`, and every hook is that of the plugin of the same index. No plugin is there twice. -/
structure Started.Matches (started : Started Q) (plugins : List (CText × PluginHookType Hook)) :
    Prop where
  count : started.discovery.pluginCount = plugins.length
  hooks_length : started.hooks.length = started.discovery.pluginCount
  entry : ∀ t, t < started.discovery.pluginCount → ∃ name hookType,
    plugins[t]? = some (name, hookType) ∧ started.discovery.pluginsName t = some name ∧
      started.hooks[t]? = some (some hookType.hook)
  distinct : (plugins.map Prod.fst).Nodup

/-- The texts that `startThreads` makes and reads fit their buffers. -/
structure StartFits (st : ParserState H) (pwd : CText) (dir : Option (PluginDir Hook)) : Prop where
  location : (pwd ++ "/plugins".toList).length < locationSize
  files : ∀ listing, dir = some listing →
    ∀ file ∈ listing.entries, FileFits st (pwd ++ "/plugins".toList) file
  defaultTiming : ConfigFits timingSize st "timings".toList "default".toList
  timings : ∀ plugin ∈ loadedPlugins st dir, ConfigFits timingSize st "timings".toList plugin.1
  bulkSize : ConfigFits bulkSizeSize st "generic".toList "bulk_size".toList

theorem pluginName_of_loadedPlugin {st : ParserState H} {file : PluginFile Hook}
    {plugin : CText × PluginHookType Hook} (h : loadedPlugin st file = some plugin) :
    pluginName file.dName = some plugin.1 := by
  unfold loadedPlugin at h
  cases hname : pluginName file.dName with
  | none =>
      rw [hname] at h
      cases h
  | some name =>
      rw [hname] at h
      dsimp only at h
      split at h
      · cases h
      · obtain ⟨hookType, -, rfl⟩ := Option.map_eq_some_iff.mp h
        rfl

/-- The files of a directory have different names, so the plugins have. -/
theorem loadedPlugins_nodup (st : ParserState H) (dir : Option (PluginDir Hook)) :
    ((loadedPlugins st dir).map Prod.fst).Nodup := by
  cases dir with
  | none => exact List.nodup_nil
  | some listing =>
      obtain ⟨entries, distinct, noSlash⟩ := listing
      simp only [loadedPlugins]
      induction entries with
      | nil => exact List.nodup_nil
      | cons file files ih =>
          rw [List.map_cons, List.nodup_cons] at distinct
          have rest := ih distinct.2 fun f member => noSlash f (List.mem_cons_of_mem _ member)
          cases hload : loadedPlugin st file with
          | none => rwa [List.filterMap_cons_none hload]
          | some plugin =>
              rw [List.filterMap_cons_some hload, List.map_cons, List.nodup_cons]
              refine ⟨?_, rest⟩
              -- the same plugin name would be the same file name
              intro again
              obtain ⟨other, member, same⟩ := List.mem_map.mp again
              obtain ⟨file', hfile', hload'⟩ := List.mem_filterMap.mp member
              have first := pluginName_eq (noSlash file List.mem_cons_self)
                (pluginName_of_loadedPlugin hload)
              have second := pluginName_eq (noSlash file' (List.mem_cons_of_mem _ hfile'))
                (pluginName_of_loadedPlugin hload')
              apply distinct.1
              rw [← first, ← same, second]
              exact List.mem_map_of_mem hfile'

/-- What was found when all texts fit. -/
theorem discoverPlugins_ok {st : ParserState H} {dirname : CText} {dir : Option (PluginDir Hook)}
    (fits : ∀ listing, dir = some listing → ∀ file ∈ listing.entries, FileFits st dirname file)
    (few : (loadedPlugins st dir).length < maxPlugins) :
    ∃ d : Discovery Q, discoverPlugins st dirname dir .init = .ok d ∧
      d.Holds (loadedPlugins st dir) := by
  have nothing : (Discovery.init : Discovery Q).Holds [] := ⟨rfl, rfl, Q.items_create⟩
  cases dir with
  | none => exact ⟨.init, rfl, nothing⟩
  | some listing =>
      have room : ([] : List (CText × PluginHookType Hook)).length +
          (listing.entries.filterMap (loadedPlugin st)).length < maxPlugins := by
        rw [List.length_nil, Nat.zero_add]
        exact few
      exact discoverEntries_ok (fits listing rfl) listing.noSlash nothing room

theorem Discovery.Holds.mem_names {d : Discovery Q}
    {plugins : List (CText × PluginHookType Hook)} (h : d.Holds plugins) {name : CText} :
    some name ∈ d.loaded.names ↔ ∃ plugin ∈ plugins, plugin.1 = name := by
  rw [h.names]
  simp

theorem Discovery.Holds.name {d : Discovery Q} {plugins : List (CText × PluginHookType Hook)}
    (h : d.Holds plugins) {t : Nat} {plugin : CText × PluginHookType Hook}
    (ht : plugins[t]? = some plugin) : d.pluginsName t = some plugin.1 := by
  have inside : t < d.pluginCount := by
    rw [h.count]
    exact (List.getElem?_eq_some_iff.mp ht).1
  have names := congrArg (·[t]?) h.names
  simpa [Discovery.loaded, ht, inside] using names

/-- With fewer than 256 plugins loaded, `startThreads` gives every plugin the hook that it has
registered, under its name, exactly when the texts on the way fit their buffers. -/
theorem startThreads_hooks_iff (st : ParserState H) (pwd : CText) (dir : Option (PluginDir Hook))
    (t : Timings) (few : (loadedPlugins st dir).length < maxPlugins) :
    (∃ started : Started Q, startThreads st pwd dir t = .ok started ∧
        started.Matches (loadedPlugins st dir)) ↔ StartFits st pwd dir := by
  unfold startThreads
  constructor
  · rintro ⟨started, run, -⟩
    obtain ⟨location, hlocation, run⟩ := Fault.bind_eq_ok.mp run
    obtain ⟨d, hdiscover, run⟩ := Fault.bind_eq_ok.mp run
    obtain ⟨timings, htimings, run⟩ := Fault.bind_eq_ok.mp run
    obtain ⟨tmpString, hbulk, -⟩ := Fault.bind_eq_ok.mp run
    have short : (pwd ++ "/plugins".toList).length < locationSize := by
      by_contra long
      rw [store, if_neg long] at hlocation
      cases hlocation
    rw [store_ok short, Except.ok.injEq] at hlocation
    subst hlocation
    have files : ∀ listing, dir = some listing →
        ∀ file ∈ listing.entries, FileFits st (pwd ++ "/plugins".toList) file := by
      rintro listing rfl
      exact filesFit_of_ok hdiscover
    obtain ⟨d', hdiscover', holds⟩ := discoverPlugins_ok (Q := Q) files few
    rw [hdiscover] at hdiscover'
    cases hdiscover'
    obtain ⟨default, own⟩ := initTimings_ok_iff.mp ⟨timings, htimings⟩
    refine ⟨short, files, default, ?_, readConfig_ok_iff.mp ⟨tmpString, hbulk⟩⟩
    intro plugin member
    exact own plugin.1 (holds.mem_names.mpr ⟨plugin, member, rfl⟩)
  · intro fits
    obtain ⟨d, hdiscover, holds⟩ := discoverPlugins_ok (Q := Q) fits.files few
    have own : ∀ name, some name ∈ d.loaded.names →
        ConfigFits timingSize st "timings".toList name := by
      intro name member
      obtain ⟨plugin, loaded, rfl⟩ := holds.mem_names.mp member
      exact fits.timings plugin loaded
    obtain ⟨timings, htimings⟩ := initTimings_ok_iff (t := t).mpr ⟨fits.defaultTiming, own⟩
    obtain ⟨tmpString, hbulk⟩ := readConfig_ok_iff.mpr fits.bulkSize
    refine ⟨⟨{ d with pm := (fillHooks d.pluginCount d.pm).2 }, timings, atoi tmpString,
      (fillHooks d.pluginCount d.pm).1⟩, ?_, ?_⟩
    · rw [store_ok fits.location]
      simp only [Fault.bind_eq_ok]
      exact ⟨_, rfl, d, hdiscover, timings, htimings, tmpString, hbulk, rfl⟩
    · refine ⟨holds.count, ?_, ?_, loadedPlugins_nodup st dir⟩
      · rw [holds.hooks, List.length_map, holds.count]
      · intro k hk
        have inside : k < (loadedPlugins st dir).length := holds.count ▸ hk
        have found := List.getElem?_eq_getElem inside
        refine ⟨_, _, found, holds.name found, ?_⟩
        rw [holds.hooks, List.getElem?_map, found]
        rfl

end

/-! ## A directory with two working plugins -/

/-- A plugin whose init function returns `rc`. -/
def pluginReturning (rc : Int) (name : CText) (hook : Nat) : PluginLibrary Nat :=
  if h : 0 < rc then .loaded ⟨rc, some ⟨name, hook⟩, ⟨fun _ => h, fun _ => rfl⟩⟩
  else .loaded ⟨rc, none, ⟨fun found => (nomatch found), fun positive => absurd positive h⟩⟩

/-- Five files: a text, a library that cannot be loaded, and three plugins of which the second one
fails. -/
def pluginFiles : PluginDir Nat where
  entries := [⟨"readme.txt".toList, .notLoadable⟩, ⟨"broken.so".toList, .notLoadable⟩,
    ⟨"mf_plugin_CPU_perf.so".toList, pluginReturning 1 "mf_plugin_CPU_perf".toList 7⟩,
    ⟨"mf_plugin_NVML.so".toList, pluginReturning 0 "mf_plugin_NVML".toList 8⟩,
    ⟨"mf_plugin_RAPL_power.so".toList, pluginReturning 1 "mf_plugin_RAPL_power".toList 9⟩]
  distinct := by decide
  noSlash := by decide

/-- A parser that has not read a configuration. -/
def noConfig : ParserState (.alist CText) := .init

theorem noConfig_fits (size : Nat) (sect key : CText) : ConfigFits size noConfig sect key := by
  intro text found
  cases found

theorem startThreads_hooks_iff_two :
    ∃ started : Started (.list (PluginHookType Nat)),
      startThreads noConfig "/opt/agent".toList (some pluginFiles) zeroTimings = .ok started ∧
        started.Matches (loadedPlugins noConfig (some pluginFiles)) := by
  have few : (loadedPlugins noConfig (some pluginFiles)).length < maxPlugins := by decide +kernel
  apply (startThreads_hooks_iff noConfig "/opt/agent".toList (some pluginFiles) zeroTimings few).mpr
  refine ⟨by decide, ?_, noConfig_fits _ _ _, fun _ _ => noConfig_fits _ _ _, noConfig_fits _ _ _⟩
  intro listing opened file member
  cases opened
  have paths : ∀ file ∈ pluginFiles.entries,
      ("/opt/agent".toList ++ "/plugins".toList ++ '/' :: file.dName).length < fullpathSize := by
    decide
  intro name _
  exact ⟨noConfig_fits _ _ _, fun _ => paths file member⟩

/-- The directory of an agent, with a path of 186 characters. -/
def deepPwd : CText := '/' :: List.replicate 185 'd'

/-- The path of the first library does not fit `fullpath`. -/
theorem startThreads_path_overflow :
    (loadedPlugins noConfig (some pluginFiles)).length < maxPlugins ∧
      ¬ ∃ started : Started (.list (PluginHookType Nat)),
        startThreads noConfig deepPwd (some pluginFiles) zeroTimings = .ok started ∧
          started.Matches (loadedPlugins noConfig (some pluginFiles)) := by
  have overflow : (startThreads (Q := .list (PluginHookType Nat)) noConfig deepPwd
      (some pluginFiles) zeroTimings).map Started.hooks = .error .overflow := by
    decide +kernel
  refine ⟨by decide +kernel, ?_⟩
  rintro ⟨started, run, -⟩
  rw [run] at overflow
  cases overflow

end PhantomMonitor
