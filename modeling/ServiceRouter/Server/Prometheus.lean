import ServiceRouter.Foundation.Exposition
import ServiceRouter.Foundation.StableSort
import ServiceRouter.Foundation.Template
import ServiceRouter.Server.Metrics

/-!
# Metrics for Prometheus

A snapshot of the counters is rendered in the text format of metrics.  The
rendered text is a page of four comments and one sample for each counter, so
that it is read back as the counters whatever the route ids and the reason
codes are.
-/

namespace ServiceRouter

open Foundation

/-! ## Rendering -/

structure MetricsSnapshot where
  routeHits : HashMap String Nat
  failureReasons : HashMap String Nat

def escapeLabelValue (input : String) : String :=
  replace (replace (replace input "\\" "\\\\") "\"" "\\\"") "\n" "\\n"

/-- One turn of either loop over the sorted keys. -/
def pushCounter (metric label : String) (counters : HashMap String Nat)
    (out key : String) : String :=
  match counters.lookup key with
  | some v =>
      out ++ metric ++ "\x7b" ++ label ++ "=\"" ++ escapeLabelValue key ++
        "\"\x7d " ++ toString v ++ "\n"
  | none => out

def renderCounters (metric help label : String)
    (counters : HashMap String Nat) (out : String) : String :=
  let out := out ++ "# HELP " ++ metric ++ " " ++ help ++ "\n"
  let out := out ++ "# TYPE " ++ metric ++ " counter\n"
  (sortByKey id counters.keys).foldl (pushCounter metric label counters) out

def renderRouteHits : HashMap String Nat → String → String :=
  renderCounters "service_router_route_hits_total"
    "Total matched requests by route id." "route_id"

def renderFailures : HashMap String Nat → String → String :=
  renderCounters "service_router_failures_total"
    "Total proxy failures by reason code." "reason"

def renderPrometheus (snapshot : MetricsSnapshot) : String :=
  renderFailures snapshot.failureReasons
    (renderRouteHits snapshot.routeHits "")

/-! ## Escaping -/

theorem replaceFrom_char (c : Char) (replacement text : List Char) :
    replaceFrom [c] replacement 0 text =
      text.flatMap fun d => if d = c then replacement else [d] := by
  induction text with
  | nil => rfl
  | cons d text ih =>
      rw [replaceFrom, List.flatMap_cons]
      by_cases hd : d = c
      · simp [hd, ih]
      · simp [hd, ih, Ne.symm hd]

/-- The backslashes that are replaced first are those of the input. -/
theorem escapeLabelValue_toList (input : String) :
    (escapeLabelValue input).toList = input.toList.flatMap escapeLabel := by
  have hslash : "\\".toList = ['\\'] := by decide
  have hquote : "\"".toList = ['"'] := by decide
  have hnewline : "\n".toList = ['\n'] := by decide
  simp only [escapeLabelValue, replace, String.toList_ofList, hslash, hquote,
    hnewline, replaceFrom_char, List.flatMap_assoc]
  refine congrArg (input.toList.flatMap ·) (funext fun c => ?_)
  unfold escapeLabel
  by_cases hcslash : c = '\\'
  · subst hcslash
    decide
  · by_cases hcquote : c = '"'
    · subst hcquote
      decide
    · by_cases hcnewline : c = '\n'
      · subst hcnewline
        decide
      · simp [hcslash, hcquote, hcnewline]

/-! ## The page -/

def routeHitsTotal : MetricName where
  text := "service_router_route_hits_total".toList
  valid := by decide

def failuresTotal : MetricName where
  text := "service_router_failures_total".toList
  valid := by decide

def routeIdLabel : LabelName where
  text := "route_id".toList
  valid := by decide

def reasonLabel : LabelName where
  text := "reason".toList
  valid := by decide

/-- The sample that a counter stands for. -/
def counterSample (metric : MetricName) (label : LabelName)
    (counter : Sigma fun _ : String => Nat) : Sample where
  metric := metric
  labels := [(label, counter.1.toList)]
  count := counter.2

def sortedSamples (metric : MetricName) (label : LabelName)
    (counters : HashMap String Nat) : List Sample :=
  (sortByKey id counters.keys).filterMap fun key =>
    (counters.lookup key).map fun v => counterSample metric label ⟨key, v⟩

theorem pushCounter_toList (metric : MetricName) (label : LabelName)
    (counters : HashMap String Nat) (out key : String) :
    (pushCounter (String.ofList metric.text) (String.ofList label.text)
        counters out key).toList =
      out.toList ++ showPage (((counters.lookup key).map fun v =>
        counterSample metric label ⟨key, v⟩).toList.map .sample) := by
  unfold pushCounter
  cases counters.lookup key with
  | none => simp [showPage]
  | some v =>
      have hopen : "\x7b".toList = ['{'] := by decide
      have hquote : "=\"".toList = ['=', '"'] := by decide
      have hclose : "\"\x7d ".toList = ['"', '}', ' '] := by decide
      have hend : "\n".toList = ['\n'] := by decide
      simp [showPage, showLine, showSample, showLabelSet, showLabels,
        showLabel, counterSample, escapeLabelValue_toList, hopen, hquote,
        hclose, hend]

theorem foldl_pushCounter_toList (metric : MetricName) (label : LabelName)
    (counters : HashMap String Nat) (keys : List String) (out : String) :
    (keys.foldl (pushCounter (String.ofList metric.text)
        (String.ofList label.text) counters) out).toList =
      out.toList ++ showPage ((keys.filterMap fun key =>
        (counters.lookup key).map fun v =>
          counterSample metric label ⟨key, v⟩).map .sample) := by
  induction keys generalizing out with
  | nil => simp [showPage]
  | cons key keys ih =>
      rw [List.foldl_cons, ih, pushCounter_toList, List.append_assoc,
        List.filterMap_cons]
      cases counters.lookup key <;> simp [showPage]

/-- What one metric adds to the page. -/
theorem renderCounters_toList (metric : MetricName) (label : LabelName)
    {name help : String} (helpLine typeLine : Comment)
    (hname : metric.text = name.toList)
    (hhelp : helpLine.text = (" HELP " ++ name ++ " " ++ help).toList)
    (htype : typeLine.text = (" TYPE " ++ name ++ " counter").toList)
    (counters : HashMap String Nat) (out : String) :
    (renderCounters name help (String.ofList label.text) counters
        out).toList =
      out.toList ++ showPage (.comment helpLine :: .comment typeLine ::
        (sortedSamples metric label counters).map .sample) := by
  have hmetric : name = String.ofList metric.text := by
    rw [hname, String.ofList_toList]
  subst hmetric
  rw [renderCounters, foldl_pushCounter_toList]
  simp [showPage, showLine, hhelp, htype, sortedSamples]

def routeHitsHelp : Comment where
  text := (" HELP service_router_route_hits_total " ++
    "Total matched requests by route id.").toList
  oneLine := by decide

def routeHitsType : Comment where
  text := " TYPE service_router_route_hits_total counter".toList
  oneLine := by decide

def failuresHelp : Comment where
  text := (" HELP service_router_failures_total " ++
    "Total proxy failures by reason code.").toList
  oneLine := by decide

def failuresType : Comment where
  text := " TYPE service_router_failures_total counter".toList
  oneLine := by decide

def prometheusLines (snapshot : MetricsSnapshot) : List Line :=
  (.comment routeHitsHelp :: .comment routeHitsType ::
    (sortedSamples routeHitsTotal routeIdLabel snapshot.routeHits).map
      .sample) ++
  (.comment failuresHelp :: .comment failuresType ::
    (sortedSamples failuresTotal reasonLabel snapshot.failureReasons).map
      .sample)

theorem renderPrometheus_toList (snapshot : MetricsSnapshot) :
    (renderPrometheus snapshot).toList =
      showPage (prometheusLines snapshot) := by
  have hhits : renderRouteHits = renderCounters
      "service_router_route_hits_total" "Total matched requests by route id."
        (String.ofList routeIdLabel.text) := rfl
  have hfailures : renderFailures = renderCounters
      "service_router_failures_total" "Total proxy failures by reason code."
        (String.ofList reasonLabel.text) := rfl
  rw [renderPrometheus, hfailures, hhits,
    renderCounters_toList failuresTotal reasonLabel failuresHelp failuresType
      rfl (congrArg String.toList (by decide))
      (congrArg String.toList (by decide)),
    renderCounters_toList routeHitsTotal routeIdLabel routeHitsHelp
      routeHitsType rfl (congrArg String.toList (by decide))
      (congrArg String.toList (by decide))]
  simp [prometheusLines, showPage]

/-! ## What is read back -/

theorem metric_of_mem_sortedSamples {metric : MetricName} {label : LabelName}
    {counters : HashMap String Nat} {sample : Sample}
    (h : sample ∈ sortedSamples metric label counters) :
    sample.metric = metric := by
  obtain ⟨key, -, hkey⟩ := List.mem_filterMap.mp h
  obtain ⟨v, -, rfl⟩ := Option.map_eq_some_iff.mp hkey
  rfl

/-- Sorting the keys neither loses nor repeats a counter. -/
theorem sortedSamples_perm (metric : MetricName) (label : LabelName)
    (counters : HashMap String Nat) :
    (sortedSamples metric label counters).Perm
      (counters.entries.map (counterSample metric label)) := by
  have hentries : (counters.keys.filterMap fun key =>
      (counters.lookup key).map fun v => counterSample metric label ⟨key, v⟩) =
      counters.entries.map (counterSample metric label) := by
    rw [AList.keys, List.keys, List.filterMap_map, ← List.filterMap_eq_map]
    refine List.filterMap_congr fun counter hcounter => ?_
    have hlookup : counters.lookup counter.1 = some counter.2 :=
      AList.mem_lookup_iff.mpr hcounter
    simp [hlookup]
  rw [← hentries]
  exact (List.perm_insertionSort _ _).filterMap _

theorem samples_of_prometheusLines (snapshot : MetricsSnapshot) :
    (prometheusLines snapshot).filterMap Line.sample? =
      sortedSamples routeHitsTotal routeIdLabel snapshot.routeHits ++
        sortedSamples failuresTotal reasonLabel snapshot.failureReasons := by
  have hsamples (samples : List Sample) :
      (samples.map .sample).filterMap Line.sample? = samples := by
    rw [List.filterMap_map]
    exact List.filterMap_some
  rw [prometheusLines, List.filterMap_append]
  exact congrArg₂ (· ++ ·) (hsamples _) (hsamples _)

theorem filter_metric_sortedSamples (metric wanted : MetricName)
    (label : LabelName) (counters : HashMap String Nat) :
    (sortedSamples metric label counters).filter
        (fun sample => sample.metric = wanted) =
      if metric = wanted then sortedSamples metric label counters else [] := by
  split
  · next heq =>
      refine List.filter_eq_self.mpr fun sample hsample => ?_
      simpa [metric_of_mem_sortedSamples hsample] using heq
  · next hne =>
      refine List.filter_eq_nil_iff.mpr fun sample hsample => ?_
      simpa [metric_of_mem_sortedSamples hsample] using hne

/-- The rendered text is read back as exactly the counters of the snapshot,
each once under its metric. -/
theorem prometheus_roundTrips (snapshot : MetricsSnapshot) :
    ∃ samples, readPage (renderPrometheus snapshot).toList = some samples ∧
      (samples.filter fun sample => sample.metric = routeHitsTotal).Perm
        (snapshot.routeHits.entries.map
          (counterSample routeHitsTotal routeIdLabel)) ∧
      (samples.filter fun sample => sample.metric = failuresTotal).Perm
        (snapshot.failureReasons.entries.map
          (counterSample failuresTotal reasonLabel)) ∧
      ∀ sample ∈ samples,
        sample.metric = routeHitsTotal ∨ sample.metric = failuresTotal := by
  have hread : readPage (renderPrometheus snapshot).toList =
      some (sortedSamples routeHitsTotal routeIdLabel snapshot.routeHits ++
        sortedSamples failuresTotal reasonLabel snapshot.failureReasons) := by
    rw [renderPrometheus_toList, readPage_showPage,
      samples_of_prometheusLines]
  refine ⟨_, hread, ?_, ?_, ?_⟩
  · rw [List.filter_append, filter_metric_sortedSamples,
      filter_metric_sortedSamples, if_pos rfl, if_neg (by decide),
      List.append_nil]
    exact sortedSamples_perm _ _ _
  · rw [List.filter_append, filter_metric_sortedSamples,
      filter_metric_sortedSamples, if_neg (by decide), if_pos rfl,
      List.nil_append]
    exact sortedSamples_perm _ _ _
  · intro sample hsample
    rcases List.mem_append.mp hsample with hhits | hfailures
    · exact .inl (metric_of_mem_sortedSamples hhits)
    · exact .inr (metric_of_mem_sortedSamples hfailures)

end ServiceRouter
