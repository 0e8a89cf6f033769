import ScaleMetrics.Proofs.Outcome
import ScaleMetrics.Proofs.Questions
import ScaleMetrics.Proofs.Recorded
import ScaleMetrics.Proofs.Rereading
import ScaleMetrics.Session

/-!
# Proofs — DefaultNamespace

The default namespace of the environment, from its variable to the questions of a run.

* `Settings.load_givenSpace`: the variable sets the default namespace to its text, read again, and
  changes no other setting, whatever the file and the other variables are.
* `Gather.run_asksIn`: a run asks about its own namespace alone.
* `Session.run_of_named`, `Session.run_of_unnamed`: a namespace that is named takes precedence over
  the variable, and where none is named the session is the one in which the text, read again, is
  asked for.
* `Session.default_namespace_gathered`: these facts together, and which texts reach the run as they
  are.  Not all do (`Session.numeral_namespace_changed`).
-/

namespace ScaleMetrics

/-! ### Settings from the environment -/

namespace Settings

/-- The name of the setting. -/
def spaceSetting : String := "default_namespace"

/-- The variable that sets it. -/
def spaceVariable : String := "K8S_GATHER_DEFAULT_NAMESPACE"

theorem settingOfVariable?_spaceVariable :
    settingOfVariable? spaceVariable = some ⟨spaceSetting, []⟩ := by
  have hprefix : variablePrefix.isPrefixOf (spaceVariable.toList.map Text.lower) = true := by
    decide
  have hrest : (spaceVariable.toList.map Text.lower).drop variablePrefix.length =
      spaceSetting.toList := by decide
  rw [settingOfVariable?, if_pos hprefix, hrest, Path.ofText]
  have hname : spaceSetting.toList.takeWhile Path.isNameChar = spaceSetting.toList := by decide
  have hend : spaceSetting.toList.dropWhile Path.isNameChar = [] := by decide
  rw [hname, hend, Path.steps?]
  rfl

/-- The variable of this name sets the setting, or a part of it. -/
def SetsPart (setting name : String) : Prop :=
  ∃ path, settingOfVariable? name = some path ∧ path.head = setting

variable {values values' : Dict Value} {environment : List (String × String)} {k : String}

theorem get?_put_of_ne {path : Path} (h : path.head ≠ k) (value : Value) :
    (Value.put values path value).get? k = values.get? k := by
  have hinsert (v : Value) : (values.insert path.head v).get? k = values.get? k := by
    rw [Dict.get?_insert, if_neg h.symm]
  unfold Value.put
  dsimp only
  split
  · split
    · rfl
    · exact hinsert _
  · exact hinsert _
  · exact hinsert _
  · exact hinsert _

theorem get?_put_text (head text : String) :
    (Value.put values ⟨head, []⟩ (.ofText text)).get? head = some (.ofText text) := by
  obtain ⟨value, h⟩ := Value.exists_means text
  rw [h.ofText_eq]
  cases h <;> exact (Dict.get?_insert ..).trans (if_pos rfl)

/-- What is found under a name after a value is put depends on what was found before. -/
theorem get?_put_congr (h : values.get? k = values'.get? k) (path : Path) (value : Value) :
    (Value.put values path value).get? k = (Value.put values' path value).get? k := by
  by_cases hhead : path.head = k
  · subst hhead
    have hinsert (v : Value) : (values.insert path.head v).get? path.head =
        (values'.insert path.head v).get? path.head := by
      rw [Dict.get?_insert, Dict.get?_insert, if_pos rfl, if_pos rfl]
    unfold Value.put
    rw [h]
    dsimp only
    split
    · split
      · exact h
      · exact hinsert _
    · exact hinsert _
    · exact hinsert _
    · exact hinsert _
  · rw [get?_put_of_ne hhead, get?_put_of_ne hhead, h]

theorem get?_withEnvironment_congr (h : values.get? k = values'.get? k) :
    (withEnvironment values environment).get? k = (withEnvironment values' environment).get? k := by
  induction environment generalizing values values' with
  | nil => exact h
  | cons entry rest ih =>
      rw [withEnvironment, withEnvironment, List.foldl_cons, List.foldl_cons]
      refine ih ?_
      dsimp only
      split
      · exact get?_put_congr h _ _
      · exact h

/-- Variables that do not set it leave a setting as it is. -/
theorem get?_withEnvironment_of_not_sets (h : ∀ entry ∈ environment, ¬ SetsPart k entry.1) :
    (withEnvironment values environment).get? k = values.get? k := by
  induction environment generalizing values with
  | nil => rfl
  | cons entry rest ih =>
      rw [withEnvironment, List.foldl_cons]
      refine (ih fun e he => h e (List.mem_cons_of_mem _ he)).trans ?_
      dsimp only
      split
      · next path hpath =>
        exact get?_put_of_ne (fun hhead => h entry List.mem_cons_self ⟨path, hpath, hhead⟩) _
      · rfl

/-- An environment in which the variable has a text. -/
def givenSpace (before after : List (String × String)) (space : String) : List (String × String) :=
  before ++ (spaceVariable, space) :: after

section

variable {before after : List (String × String)} {file : File}

theorem withEnvironment_append (values : Dict Value) :
    withEnvironment values (before ++ after) =
      withEnvironment (withEnvironment values before) after :=
  List.foldl_append

theorem withEnvironment_cons {name text : String} {path : Path}
    (h : settingOfVariable? name = some path) :
    withEnvironment values ((name, text) :: after) =
      withEnvironment (Value.put values path (.ofText text)) after := by
  rw [withEnvironment, List.foldl_cons]
  dsimp only
  rw [h]
  rfl

/-- The text is the value of the setting, unless a later variable sets it. -/
theorem get?_givenSpace (hafter : ∀ entry ∈ after, ¬ SetsPart spaceSetting entry.1)
    (values : Dict Value) (space : String) :
    (withEnvironment values (givenSpace before after space)).get? spaceSetting =
      some (Value.ofText space) := by
  rw [givenSpace, withEnvironment_append, withEnvironment_cons settingOfVariable?_spaceVariable,
    get?_withEnvironment_of_not_sets hafter, get?_put_text]

/-- The other settings are what they are without it. -/
theorem get?_givenSpace_of_ne (values : Dict Value) (space : String) (h : k ≠ spaceSetting) :
    (withEnvironment values (givenSpace before after space)).get? k =
      (withEnvironment values (before ++ after)).get? k := by
  rw [givenSpace, withEnvironment_append, withEnvironment_append,
    withEnvironment_cons settingOfVariable?_spaceVariable]
  exact get?_withEnvironment_congr (get?_put_of_ne h.symm _)

/-- The settings of some values, with this namespace. -/
def ofOthers (values : Dict Value) (space : String) : Except Fault Settings := do
  let initialization ←
    setting values "cpu_initialization_period_secs" Value.toWord? default.initializationSeconds
  let readinessDelay ←
    setting values "initial_readiness_delay_secs" Value.toWord? default.readinessDelaySeconds
  let logFormat ←
    setting values "log_format" (fun v => v.toName?.bind LogFormat.ofName?) default.logFormat
  return ⟨initialization, readinessDelay, logFormat, space⟩

theorem ofValues_of_space {space : String}
    (h : setting values spaceSetting Value.toText? default.defaultSpace = .ok space) :
    ofValues values = ofOthers values space := by
  rw [spaceSetting] at h
  rw [ofValues, ofOthers]
  simp only [h]
  rfl

theorem setting_congr {α : Type} {convert : Value → Option α} {default : α}
    (h : values.get? k = values'.get? k) :
    setting values k convert default = setting values' k convert default := by
  rw [setting, setting, h]

theorem ofOthers_congr (h : ∀ k, k ≠ spaceSetting → values.get? k = values'.get? k)
    (space : String) : ofOthers values space = ofOthers values' space := by
  rw [ofOthers, setting_congr (h _ (by decide)), setting_congr (h _ (by decide)),
    setting_congr (h _ (by decide))]
  rfl

theorem ofOthers_eq_map (values : Dict Value) (space other : String) :
    ofOthers values space =
      (ofOthers values other).map fun settings => { settings with defaultSpace := space } := by
  rw [ofOthers, ofOthers]
  cases setting values "cpu_initialization_period_secs" Value.toWord? default.initializationSeconds
  · rfl
  cases setting values "initial_readiness_delay_secs" Value.toWord? default.readinessDelaySeconds
  · rfl
  cases setting values "log_format" (fun v => v.toName?.bind LogFormat.ofName?) default.logFormat
  · rfl
  · rfl

/-- Settings that are found have the namespace that is. -/
theorem setting_of_ofValues {settings : Settings} (h : ofValues values = .ok settings) :
    setting values spaceSetting Value.toText? default.defaultSpace = .ok settings.defaultSpace := by
  obtain ⟨initialization, -, h⟩ := bind_eq_ok.1 h
  obtain ⟨readinessDelay, -, h⟩ := bind_eq_ok.1 h
  obtain ⟨logFormat, -, h⟩ := bind_eq_ok.1 h
  obtain ⟨space, hspace, h⟩ := bind_eq_ok.1 h
  cases h
  exact hspace

theorem setting_givenSpace (hafter : ∀ entry ∈ after, ¬ SetsPart spaceSetting entry.1)
    (values : Dict Value) (space : String) :
    setting (withEnvironment values (givenSpace before after space)) spaceSetting Value.toText?
      default.defaultSpace = .ok (Value.reread space) := by
  rw [setting, get?_givenSpace hafter]
  dsimp only
  rw [Value.toText?_ofText]

/-- **The variable sets the namespace**, and nothing else. -/
theorem load_givenSpace (hafter : ∀ entry ∈ after, ¬ SetsPart spaceSetting entry.1)
    {settings : Settings} (h : load file (before ++ after) = .ok settings) (space : String) :
    load file (givenSpace before after space) =
      .ok { settings with defaultSpace := Value.reread space } := by
  obtain ⟨values, hvalues, h⟩ := bind_eq_ok.1 h
  rw [ofValues_of_space (setting_of_ofValues h)] at h
  refine bind_eq_ok.2 ⟨values, hvalues, ?_⟩
  rw [ofValues_of_space (setting_givenSpace hafter values space),
    ofOthers_congr fun k hk => get?_givenSpace_of_ne values space hk,
    ofOthers_eq_map _ _ settings.defaultSpace, h]
  rfl

/-- Another text gives another namespace, and the same settings otherwise. -/
theorem load_givenSpace_eq_map (hafter : ∀ entry ∈ after, ¬ SetsPart spaceSetting entry.1)
    (space other : String) :
    load file (givenSpace before after space) =
      (load file (givenSpace before after other)).map fun settings =>
        { settings with defaultSpace := Value.reread space } := by
  rw [load, load]
  cases hvalues : ofFile file with
  | error fault => rfl
  | ok values =>
      show ofValues _ = (ofValues _).map _
      rw [ofValues_of_space (setting_givenSpace hafter values space),
        ofValues_of_space (setting_givenSpace hafter values other), ofOthers_eq_map,
        ofOthers_congr fun k hk => get?_givenSpace_of_ne values space hk,
        ofOthers_congr fun k hk => get?_givenSpace_of_ne values other hk]

theorem defaultSpace_of_load (hafter : ∀ entry ∈ after, ¬ SetsPart spaceSetting entry.1)
    {settings : Settings} {space : String}
    (h : load file (givenSpace before after space) = .ok settings) :
    settings.defaultSpace = Value.reread space := by
  obtain ⟨values, -, h⟩ := bind_eq_ok.1 h
  have hset := setting_of_ofValues h
  rw [setting_givenSpace hafter] at hset
  exact (Except.ok.inj hset).symm

end

end Settings

/-! ### Runs in a namespace -/

/-- The namespace that a question is about; a workload is asked for its selector without one. -/
def Call.space? : Call → Option String
  | .selectorFor _ => none
  | .resourceMetric _ space _ | .rawMetric _ space _ _ | .objectMetric _ space _ _
  | .externalMetric _ space _ | .listPods space _ => some space

namespace Trail

variable {α β : Type} {space : String}

/-- Every question that is about a namespace is about this one. -/
def AsksIn (space : String) (x : Trail α) : Prop :=
  ∀ call ∈ x.calls, ∀ s ∈ call.space?, s = space

theorem asksIn_of_calls_eq_nil {x : Trail α} (h : x.calls = []) : x.AsksIn space := by
  intro call hmem
  rw [h] at hmem
  cases hmem

theorem asksIn_ask {call : Call} (h : call.space? = some space) (context : String)
    (answer : Except String α) : (ask call context answer).AsksIn space :=
  List.forall_mem_singleton.2 fun _ hs => Option.some.inj ((Option.mem_def.1 hs).symm.trans h)

theorem AsksIn.bind {x : Trail α} {f : α → Trail β} (hx : x.AsksIn space)
    (hf : ∀ a, (f a).AsksIn space) : (x >>= f).AsksIn space := by
  intro call hmem
  rw [calls_bind] at hmem
  rcases List.mem_append.1 hmem with hmem | hmem
  · exact hx call hmem
  · split at hmem
    · exact hf _ call hmem
    · cases hmem

/-- What is done with the answers may ask nothing. -/
theorem AsksIn.bind_of_calls_eq_nil {x : Trail α} {f : α → Trail β} (hx : x.AsksIn space)
    (hf : ∀ a, (f a).calls = []) : (x >>= f).AsksIn space :=
  hx.bind fun a => asksIn_of_calls_eq_nil (hf a)

end Trail

namespace Cluster

open Trail

variable (cluster : Cluster) (target : ScaleTarget)

theorem targetPods_asksIn : (cluster.targetPods target).AsksIn target.space :=
  asksIn_ask rfl _ _

theorem readyPodCount_asksIn : (cluster.readyPodCount target).AsksIn target.space :=
  (cluster.targetPods_asksIn target).bind_of_calls_eq_nil fun _ => rfl

theorem resourceMetric_asksIn (windows : GraceWindows) (name : String) (kind : ResourceTarget) :
    (cluster.resourceMetric windows target name kind).AsksIn target.space := by
  refine (asksIn_ask rfl _ _).bind fun _ => (cluster.targetPods_asksIn target).bind fun _ => ?_
  split
  · exact asksIn_of_calls_eq_nil rfl
  · exact (asksIn_of_calls_eq_nil rfl).bind fun _ =>
      (asksIn_of_calls_eq_nil rfl).bind_of_calls_eq_nil fun _ => rfl

theorem podsMetric_asksIn (name : String) (series : Selector) :
    (cluster.podsMetric target name series).AsksIn target.space := by
  refine (cluster.targetPods_asksIn target).bind fun _ => ?_
  split
  · exact (asksIn_of_calls_eq_nil rfl).bind_of_calls_eq_nil fun _ => rfl
  · exact (asksIn_ask rfl _ _).bind_of_calls_eq_nil fun _ => rfl

theorem objectMetric_asksIn (object : ObjectReference) (name : String) (series : Selector)
    (kind : ValueTarget) :
    (cluster.objectMetric target object name series kind).AsksIn target.space :=
  (asksIn_ask rfl _ _).bind fun _ =>
    (cluster.readyPodCount_asksIn target).bind_of_calls_eq_nil fun _ => rfl

theorem externalMetric_asksIn (name : String) (series : Selector) (kind : ValueTarget) :
    (cluster.externalMetric target name series kind).AsksIn target.space :=
  (asksIn_ask rfl _ _).bind fun _ => (asksIn_of_calls_eq_nil rfl).bind fun _ =>
    (asksIn_of_calls_eq_nil rfl).bind fun _ =>
      (cluster.readyPodCount_asksIn target).bind_of_calls_eq_nil fun _ => rfl

end Cluster

namespace Gather

open Trail

variable (gather : Gather) (target : ScaleTarget)

theorem payload_asksIn (source : Source) : (gather.payload target source).AsksIn target.space := by
  have hseries (metric : MetricIdentifier) :
      (ofExcept (seriesSelector metric)).AsksIn target.space := asksIn_of_calls_eq_nil rfl
  cases source with
  | resource name kind =>
      exact (gather.cluster.resourceMetric_asksIn target _ name kind).bind_of_calls_eq_nil
        fun _ => rfl
  | pods metric =>
      exact (hseries metric).bind fun _ =>
        (gather.cluster.podsMetric_asksIn target _ _).bind_of_calls_eq_nil fun _ => rfl
  | object reference metric kind =>
      exact (hseries metric).bind fun _ =>
        (gather.cluster.objectMetric_asksIn target _ _ _ _).bind_of_calls_eq_nil fun _ => rfl
  | external metric kind =>
      exact (hseries metric).bind fun _ =>
        (gather.cluster.externalMetric_asksIn target _ _ _).bind_of_calls_eq_nil fun _ => rfl

theorem calls_gaps (payload : Payload) : (gaps payload).calls = [] := by
  cases payload <;> rfl

theorem gatherSpec_asksIn (spec : MetricSpec) :
    (gather.gatherSpec target spec).AsksIn target.space := by
  rw [gatherSpec]
  split
  · exact asksIn_of_calls_eq_nil rfl
  · next source _ =>
    refine AsksIn.bind (x := (gather.payload target source).within _) ?_ fun payload =>
      (asksIn_of_calls_eq_nil (calls_gaps payload)).bind_of_calls_eq_nil fun _ => rfl
    rw [AsksIn, calls_within]
    exact gather.payload_asksIn target source

theorem calls_countedSteps (spec : MetricSpec) :
    (gather.countedSteps target spec).filterMap Step.call? =
      (gather.gatherSpec target spec).calls := by
  rw [countedSteps, List.filterMap_append, ← Trail.calls]
  cases (gather.gatherSpec target spec).outcome <;> exact List.append_nil _

/-- A run asks for its selector, and then what its specifications ask. -/
theorem calls_run_of_resolved {gather : Gather} {workload : Workload} {selector : Selector}
    (h : gather.resolver workload = .ok selector) (specs : List MetricSpec) (space : String)
    (replicas : Signed32) :
    (gather.run workload specs space replicas).calls =
      .selectorFor workload.describe ::
        specs.flatMap fun spec => (gather.gatherSpec ⟨space, selector⟩ spec).calls := by
  have hwarning (result : Except GatherError (List Metric)) :
      (warning workload space result).filterMap Step.call? = [] := by
    cases result <;> rfl
  have hspecs : (specs.flatMap (gather.countedSteps ⟨space, selector⟩)).filterMap Step.call? =
      specs.flatMap fun spec => (gather.gatherSpec ⟨space, selector⟩ spec).calls := by
    rw [List.filterMap_flatMap]
    exact congrArg (List.flatMap · specs) (funext (gather.calls_countedSteps _))
  rw [run, h, calls]
  dsimp only
  rw [List.filterMap_append, List.filterMap_append, hwarning, List.filterMap_cons, hspecs,
    List.append_nil]
  exact List.append_nil _

/-- **A run asks about its own namespace alone.** -/
theorem run_asksIn (workload : Workload) (specs : List MetricSpec) (space : String)
    (replicas : Signed32) : (gather.run workload specs space replicas).AsksIn space := by
  have hworkload : ∀ s ∈ (Call.selectorFor workload.describe).space?, s = space := by
    rintro s ⟨⟩
  cases hresolved : gather.resolver workload with
  | error e =>
      rw [run, hresolved]
      exact List.forall_mem_singleton.2 hworkload
  | ok selector =>
      rw [AsksIn, calls_run_of_resolved hresolved, List.forall_mem_cons]
      refine ⟨hworkload, fun call hmem => ?_⟩
      obtain ⟨spec, -, hcall⟩ := List.mem_flatMap.1 hmem
      exact gather.gatherSpec_asksIn ⟨space, selector⟩ spec call hcall

end Gather

/-! ### Sessions -/

namespace Session

open Settings (File SetsPart givenSpace load spaceSetting spaceVariable)
open Settings.Value (Kept reread)

/-- The run over the snapshot is in the namespace: it is announced with it, and asks about no
other. -/
structure GathersIn (snapshot : Snapshot) (asked : Option String) (settings : Settings)
    (now : Instant) (space : String) : Prop where
  space_eq : spaceOf asked snapshot settings = space
  announced : ∀ format colours,
    (gatherSnapshot snapshot asked settings format colours now).events.head? =
      some (.runStarted snapshot.workload.describe programVersion space snapshot.specs.length)
  asksIn : ((gatherOf snapshot settings now).run snapshot.workload snapshot.specs
    (spaceOf asked snapshot settings) snapshot.replicas).AsksIn space

theorem gathersIn_spaceOf (snapshot : Snapshot) (asked : Option String) (settings : Settings)
    (now : Instant) :
    GathersIn snapshot asked settings now (spaceOf asked snapshot settings) where
  space_eq := rfl
  announced := fun format colours => by
    rw [gatherSnapshot]
    split <;> rfl
  asksIn := Gather.run_asksIn _ _ _ _ _

/-- A snapshot is gathered alike in the same namespace with the same windows. -/
theorem gatherSnapshot_congr {snapshot : Snapshot} {asked asked' : Option String}
    {settings settings' : Settings}
    (hspace : spaceOf asked snapshot settings = spaceOf asked' snapshot settings')
    (hconfig : settings.gatherConfig = settings'.gatherConfig) :
    gatherSnapshot snapshot asked settings = gatherSnapshot snapshot asked' settings' := by
  have hgather : gatherOf snapshot settings = gatherOf snapshot settings' := by
    funext now
    rw [gatherOf, gatherOf, hconfig]
  funext format colours now
  rw [gatherSnapshot, gatherSnapshot, hspace, hgather]

variable {before after : List (String × String)}

/-- Other variables have their values without it. -/
theorem valueOf?_givenSpace {name : String} (h : name ≠ spaceVariable) (space : String) :
    valueOf? (givenSpace before after space) name = valueOf? (before ++ after) name := by
  rw [valueOf?, valueOf?, givenSpace, List.reverse_append, List.reverse_append, List.reverse_cons,
    List.append_assoc, List.lookup_append, List.lookup_append, List.lookup_append,
    Dict.lookup_cons_eq, if_neg h]
  rfl

theorem colours_givenSpace (space : String) :
    colours (givenSpace before after space) = colours (before ++ after) := by
  rw [colours, colours, valueOf?_givenSpace (by decide)]

theorem logFilter_givenSpace (space : String) (verbose : Bool) :
    logFilter (givenSpace before after space) verbose = logFilter (before ++ after) verbose := by
  rw [logFilter, logFilter, valueOf?_givenSpace (by decide)]

/-- The world with the variable. -/
def worldOf (world : World) (before after : List (String × String)) (space : String) : World :=
  { world with environment := givenSpace before after space }

/-- Sessions with the same namespace are alike. -/
theorem runWith_congr {world : World} {options : Options} {asked : Option String}
    {settings settings' : Settings} {space other : String}
    (hspace : ∀ snapshot, readSnapshot world options.snapshot = .ok snapshot →
      spaceOf options.space snapshot settings = spaceOf asked snapshot settings')
    (hconfig : settings.gatherConfig = settings'.gatherConfig)
    (hformat : settings.logFormat = settings'.logFormat) :
    runWith (worldOf world before after space) options settings =
      runWith (worldOf world before after other) { options with space := asked } settings' := by
  have hread (space : String) :
      readSnapshot (worldOf world before after space) options.snapshot =
        readSnapshot world options.snapshot := rfl
  rw [runWith, runWith, hread, hread]
  cases hsnapshot : readSnapshot world options.snapshot with
  | error fault => rw [hformat]
  | ok snapshot =>
      simp only [gatherSnapshot_congr (hspace snapshot hsnapshot) hconfig, hformat, worldOf,
        colours_givenSpace, logFilter_givenSpace]

/-- A session that is not a misuse loads its settings and goes on with them. -/
theorem run_worldOf {world : World} {arguments : List String} {options : Options}
    (h : CommandLine.read arguments = .run options) (formats : List Settings.Format)
    (space : String) :
    run (worldOf world before after space) arguments formats =
      match load (settingsFile world formats options.config) (givenSpace before after space) with
      | .error fault => failed fault.message .json
      | .ok settings => runWith (worldOf world before after space) options settings := by
  have hfile : settingsFile (worldOf world before after space) formats options.config =
      settingsFile world formats options.config := by
    cases options.config <;> rfl
  simp only [run, h, hfile]
  rfl

/-- **A namespace that is named takes precedence**: the session is the same whatever the variable
says. -/
theorem run_of_named (hafter : ∀ entry ∈ after, ¬ SetsPart spaceSetting entry.1) {world : World}
    {arguments : List String} {options : Options}
    (hread : CommandLine.read arguments = .run options)
    (hnamed : ∀ snapshot, readSnapshot world options.snapshot = .ok snapshot →
      (options.space.or snapshot.space).isSome = true)
    (formats : List Settings.Format) (space other : String) :
    run (worldOf world before after space) arguments formats =
      run (worldOf world before after other) arguments formats := by
  rw [run_worldOf hread, run_worldOf hread, Settings.load_givenSpace_eq_map hafter space other]
  cases load (settingsFile world formats options.config) (givenSpace before after other) with
  | error fault => rfl
  | ok settings =>
      have hspace : ∀ snapshot, readSnapshot world options.snapshot = .ok snapshot →
          spaceOf options.space snapshot { settings with defaultSpace := reread space } =
            spaceOf options.space snapshot settings := fun snapshot hsnapshot => by
        obtain ⟨s, hs⟩ := Option.isSome_iff_exists.1 (hnamed snapshot hsnapshot)
        rw [spaceOf, spaceOf, hs]
        rfl
      exact runWith_congr hspace rfl rfl

/-- **Where no namespace is named**, the session is the one in which the text of the variable, read
again, is asked for. -/
theorem run_of_unnamed (hafter : ∀ entry ∈ after, ¬ SetsPart spaceSetting entry.1) {world : World}
    {arguments flagged : List String} {options : Options} {space : String}
    (hread : CommandLine.read arguments = .run options)
    (hflagged : CommandLine.read flagged = .run { options with space := some (reread space) })
    (hunnamed : options.space = none ∧ ∀ snapshot,
      readSnapshot world options.snapshot = .ok snapshot → snapshot.space = none)
    (formats : List Settings.Format) :
    run (worldOf world before after space) arguments formats =
      run (worldOf world before after space) flagged formats := by
  rw [run_worldOf hread, run_worldOf hflagged]
  cases hload : load (settingsFile world formats options.config)
    (givenSpace before after space) with
  | error fault => rfl
  | ok settings =>
      refine runWith_congr (fun snapshot hsnapshot => ?_) rfl rfl
      rw [spaceOf, spaceOf, hunnamed.1, hunnamed.2 snapshot hsnapshot,
        Settings.defaultSpace_of_load hafter hload]
      rfl

/-- **The namespace of a session.**  A text of the variable becomes the default namespace as it is
read again, and changes nothing else, whatever the settings file is.  A run gathers in the namespace
of the command line, or else in that of the snapshot, or else in this one.  The text is read again
as it is if and only if it is `Kept`. -/
theorem default_namespace_gathered (hafter : ∀ entry ∈ after, ¬ SetsPart spaceSetting entry.1)
    (space : String) :
    (∀ file settings, load file (before ++ after) = .ok settings →
      load file (givenSpace before after space) =
        .ok { settings with defaultSpace := reread space }) ∧
    (∀ file settings, load file (givenSpace before after space) = .ok settings →
      ∀ snapshot asked now, GathersIn snapshot asked settings now
        ((asked.or snapshot.space).getD (reread space))) ∧
    (∀ world arguments options, CommandLine.read arguments = .run options →
      (∀ snapshot, readSnapshot world options.snapshot = .ok snapshot →
        (options.space.or snapshot.space).isSome = true) →
      ∀ formats other, run (worldOf world before after space) arguments formats =
        run (worldOf world before after other) arguments formats) ∧
    (∀ world arguments flagged options, CommandLine.read arguments = .run options →
      CommandLine.read flagged = .run { options with space := some (reread space) } →
      (options.space = none ∧ ∀ snapshot, readSnapshot world options.snapshot = .ok snapshot →
        snapshot.space = none) →
      ∀ formats, run (worldOf world before after space) arguments formats =
        run (worldOf world before after space) flagged formats) ∧
    (reread space = space ↔ Kept space) := by
  refine ⟨fun file settings h => Settings.load_givenSpace hafter h space, ?_,
    fun world arguments options hread hnamed formats =>
      run_of_named hafter hread hnamed formats space,
    fun world arguments flagged options hread hflagged hunnamed =>
      run_of_unnamed hafter hread hflagged hunnamed,
    Settings.Value.reread_eq_iff⟩
  intro file settings h snapshot asked now
  rw [← Settings.defaultSpace_of_load hafter h]
  exact gathersIn_spaceOf snapshot asked settings now

/-- The law at a name that is a word, and another variable, without a settings file and with one
that names another namespace. -/
theorem default_namespace_gathered_shop :
    (∀ entry ∈ [("RUST_LOG", "info")], ¬ SetsPart spaceSetting entry.1) ∧
    Kept "shop" ∧
    load .none (givenSpace [] [("RUST_LOG", "info")] "shop") =
      .ok { Settings.default with defaultSpace := "shop" } ∧
    load (.entries [("Default_Namespace", .text "blog"), ("log_format", .text "text")])
        (givenSpace [] [("RUST_LOG", "info")] "shop") =
      .ok { Settings.default with logFormat := .text, defaultSpace := "shop" } ∧
    GathersIn Snapshot.shop none { Settings.default with defaultSpace := "shop" } .epoch
      "shop" := by
  have hafter : ∀ entry ∈ [("RUST_LOG", "info")], ¬ SetsPart spaceSetting entry.1 := by
    refine List.forall_mem_singleton.2 ?_
    rintro ⟨path, hpath, -⟩
    cases hpath
  have hkept : Kept "shop" := .word (by decide) fun h => by
    obtain ⟨x, hx⟩ := Binary64.Extended.exists_read?_iff.2 h
    have hnone : Binary64.Extended.read? "shop" = none := by decide
    rw [hnone] at hx
    cases hx
  obtain ⟨hload, hgathers, -, -, hreread⟩ := @default_namespace_gathered [] _ hafter "shop"
  rw [hreread.2 hkept] at hload hgathers
  have hsettings := hload .none Settings.default rfl
  have hfile : load (.entries [("Default_Namespace", .text "blog"), ("log_format", .text "text")])
      [("RUST_LOG", "info")] = .ok { Settings.default with
        logFormat := .text, defaultSpace := "blog" } := by
    decide +kernel
  exact ⟨hafter, hkept, hsettings, hload _ _ hfile,
    hgathers .none _ hsettings Snapshot.shop none .epoch⟩

/-- **A name that is a numeral is changed** by the variable, but not by a settings file or the
command line. -/
theorem numeral_namespace_changed :
    load .none (givenSpace [] [] "007") = .ok { Settings.default with defaultSpace := "7" } ∧
    GathersIn Snapshot.shop none { Settings.default with defaultSpace := "7" } .epoch "7" ∧
    load (.content "\x7b\"default_namespace\": \"007\"\x7d") [] =
      .ok { Settings.default with defaultSpace := "007" } ∧
    GathersIn Snapshot.shop none { Settings.default with defaultSpace := "007" } .epoch "007" ∧
    GathersIn Snapshot.shop (some "007") { Settings.default with defaultSpace := "7" } .epoch
      "007" := by
  have hreread : reread "007" = "7" := by decide
  have hload : load .none (givenSpace [] [] "007") =
      .ok { Settings.default with defaultSpace := reread "007" } :=
    Settings.load_givenSpace (List.forall_mem_nil _) rfl "007"
  rw [hreread] at hload
  exact ⟨hload, gathersIn_spaceOf _ _ _ _, by decide +kernel, gathersIn_spaceOf _ _ _ _,
    gathersIn_spaceOf _ _ _ _⟩

end Session

end ScaleMetrics
