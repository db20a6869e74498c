import ServiceRouter.Snapshot.Redaction

/-!
# Plugin configurations in the snapshot

The server section carries the configuration of every plugin as it is, so the
export is the same for two configurations exactly if the header values given
to their plugins are.
-/

namespace ServiceRouter

open Foundation

/-! ## Header values -/

def headerValues (config : Value) : List Value :=
  match config.getField "headers" with
  | some (.object headers) => headers.map Prod.snd
  | _ => []

/-- Give the field `headers` of an object other contents. -/
def withHeaders (fields headers : List (String × Value)) :
    List (String × Value) :=
  fields.map fun field =>
    if field.1 = "headers" then (field.1, .object headers) else field

/-- The plugin configurations differ at most in the values of their headers. -/
inductive HeaderValuesDiffer : Value → Value → Prop
  | same (config : Value) : HeaderValuesDiffer config config
  | headers {fields headers headers' : List (String × Value)}
      (hkeys : (fields.map Prod.fst).Nodup)
      (hheaders : fields.lookup "headers" = some (.object headers))
      (hnames : headers'.map Prod.fst = headers.map Prod.fst) :
      HeaderValuesDiffer (.object fields)
        (.object (withHeaders fields headers'))

structure PluginConfig.HeadersDiffer (plugin plugin' : PluginConfig) :
    Prop where
  name : plugin'.name = plugin.name
  order : plugin'.order = plugin.order
  enabled : plugin'.enabled = plugin.enabled
  config : HeaderValuesDiffer plugin.config plugin'.config

/-- The server sections differ at most in the header values inside the plugin
configurations. -/
structure ServerConfig.HeadersDiffer (server server' : ServerConfig) :
    Prop where
  plugins : List.Forall₂ PluginConfig.HeadersDiffer server.plugins
    server'.plugins
  others : server' = { server with plugins := server'.plugins }

theorem lookup_withHeaders {fields headers : List (String × Value)}
    {old : Value} (h : fields.lookup "headers" = some old) :
    (withHeaders fields headers).lookup "headers" =
      some (.object headers) := by
  induction fields with
  | nil => cases h
  | cons field fields ih =>
      obtain ⟨k, v⟩ := field
      rw [withHeaders, List.map_cons]
      by_cases hk : k = "headers"
      · rw [if_pos hk, List.lookup_cons]
        simp [hk]
      · have hne : ("headers" == k) = false :=
          beq_eq_false_iff_ne.mpr (Ne.symm hk)
        rw [List.lookup_cons, hne] at h
        rw [if_neg hk, List.lookup_cons, hne]
        exact ih h

theorem withHeaders_of_lookup {fields headers : List (String × Value)}
    (hkeys : (fields.map Prod.fst).Nodup)
    (h : fields.lookup "headers" = some (.object headers)) :
    withHeaders fields headers = fields := by
  induction fields with
  | nil => rfl
  | cons field fields ih =>
      obtain ⟨k, v⟩ := field
      obtain ⟨hnot, hrest⟩ := List.nodup_cons.mp hkeys
      rw [withHeaders, List.map_cons]
      by_cases hk : k = "headers"
      · subst hk
        rw [List.lookup_cons, beq_self_eq_true] at h
        cases h
        rw [if_pos rfl]
        congr 1
        conv_rhs => rw [← List.map_id fields]
        refine List.map_congr_left fun field hfield => ?_
        refine if_neg fun hname => hnot ?_
        have hmem : field.1 ∈ fields.map Prod.fst :=
          List.mem_map_of_mem hfield
        rw [hname] at hmem
        exact hmem
      · have hne : ("headers" == k) = false :=
          beq_eq_false_iff_ne.mpr (Ne.symm hk)
        rw [List.lookup_cons, hne] at h
        rw [if_neg hk]
        exact congrArg _ (ih hrest h)

/-- Such configurations are equal exactly if their header values are. -/
theorem HeaderValuesDiffer.eq_iff {config config' : Value}
    (h : HeaderValuesDiffer config config') :
    config' = config ↔ headerValues config' = headerValues config := by
  constructor
  · rintro rfl
    rfl
  · intro hvalues
    cases h with
    | same => rfl
    | headers hkeys hheaders hnames =>
        rename_i fields headers headers'
        have hold : headerValues (.object fields) =
            headers.map Prod.snd := by
          simp [headerValues, Value.getField, hheaders]
        have hnew : headerValues (.object (withHeaders fields headers')) =
            headers'.map Prod.snd := by
          simp [headerValues, Value.getField, lookup_withHeaders hheaders]
        rw [hold, hnew] at hvalues
        have hsame : headers' = headers :=
          (List.zip_of_prod hnames hvalues).trans
            (List.zip_of_prod rfl rfl).symm
        rw [hsame, withHeaders_of_lookup hkeys hheaders]

/-! ## The exported server section -/

theorem config_eq_of_toValue_eq {plugin plugin' : PluginConfig}
    (h : plugin'.toValue = plugin.toValue) :
    plugin'.config = plugin.config := by
  have hfield (p : PluginConfig) :
      p.toValue.getField "config" = some p.config := by
    rw [PluginConfig.toValue, Value.getField_mkObject]
    rfl
  have hconfig := congrArg (Value.getField "config") h
  rw [hfield, hfield] at hconfig
  exact Option.some.inj hconfig

theorem plugins_eq_of_toValue_eq {server server' : ServerConfig}
    (h : server'.toValue = server.toValue) :
    server'.plugins.map PluginConfig.toValue =
      server.plugins.map PluginConfig.toValue := by
  have hfield (s : ServerConfig) : s.toValue.getField "plugins" =
      some (.array (s.plugins.map PluginConfig.toValue)) := by
    rw [ServerConfig.toValue, Value.getField_mkObject]
    rfl
  have hplugins := congrArg (Value.getField "plugins") h
  rw [hfield, hfield] at hplugins
  exact Value.array.inj (Option.some.inj hplugins)

theorem PluginConfig.HeadersDiffer.eq_iff {plugin plugin' : PluginConfig}
    (h : plugin.HeadersDiffer plugin') :
    plugin' = plugin ↔ headerValues plugin'.config =
      headerValues plugin.config := by
  rw [← h.config.eq_iff]
  constructor
  · rintro rfl
    rfl
  · intro hconfig
    obtain ⟨name, order, enabled, config⟩ := plugin
    obtain ⟨name', order', enabled', config'⟩ := plugin'
    obtain ⟨hname, horder, henabled, -⟩ := h
    dsimp only at *
    rw [hname, horder, henabled, hconfig]

/-- Every plugin has the same header values in both lists. -/
def SameHeaderValues (plugins plugins' : List PluginConfig) : Prop :=
  List.Forall₂ (fun plugin plugin' =>
    headerValues plugin'.config = headerValues plugin.config) plugins plugins'

theorem plugins_eq_iff {plugins plugins' : List PluginConfig}
    (h : List.Forall₂ PluginConfig.HeadersDiffer plugins plugins') :
    plugins' = plugins ↔ SameHeaderValues plugins plugins' := by
  unfold SameHeaderValues
  induction h with
  | nil => simp
  | cons hplugin _ ih =>
      rw [List.cons.injEq, List.forall₂_cons, hplugin.eq_iff, ih]

theorem sameHeaderValues_of_toValue_eq {plugins plugins' : List PluginConfig}
    (h : plugins'.map PluginConfig.toValue =
      plugins.map PluginConfig.toValue) :
    SameHeaderValues plugins plugins' := by
  induction plugins generalizing plugins' with
  | nil =>
      rw [List.map_eq_nil_iff.mp h]
      exact .nil
  | cons plugin plugins ih =>
      cases plugins' with
      | nil => cases h
      | cons plugin' plugins' =>
          obtain ⟨hplugin, hrest⟩ := List.cons.inj h
          exact .cons (congrArg headerValues (config_eq_of_toValue_eq hplugin))
            (ih hrest)

/-- The exported server section, as a value and as JSON, tells apart any two
header values. -/
theorem exported_server_eq_iff (crate : UrlCrate)
    {config config' : AppConfig}
    (h : config.server.HeadersDiffer config'.server)
    (snapshotId snapshotId' : String) (path path' : PathBuf) :
    let exported := buildConfigSnapshotExport crate snapshotId config path
    let exported' := buildConfigSnapshotExport crate snapshotId' config' path'
    (exported'.server = exported.server ↔
        SameHeaderValues config.server.plugins config'.server.plugins) ∧
      (exported'.server.toValue = exported.server.toValue ↔
        SameHeaderValues config.server.plugins config'.server.plugins) := by
  intro exported exported'
  have hsame : config'.server = config.server ↔
      SameHeaderValues config.server.plugins config'.server.plugins := by
    rw [← plugins_eq_iff h.plugins]
    constructor
    · intro heq
      rw [heq]
    · intro heq
      rw [h.others, heq]
  refine ⟨hsame, fun hvalue => ?_, fun hvalues => ?_⟩
  · exact sameHeaderValues_of_toValue_eq (plugins_eq_of_toValue_eq hvalue)
  · have hserver : exported'.server = exported.server := hsame.mpr hvalues
    rw [hserver]

/-! ## An injected credential -/

def bearerConfig (token : String) : AppConfig where
  server := { plugins := [{
    name := "request-headers"
    config := .object [
      ("headers", .object [("Authorization", .string token)])] }] }

def exportedPath : PathBuf := ⟨["config.yaml"], "config.yaml"⟩

theorem headersDiffer_bearerConfig (token token' : String) :
    (bearerConfig token).server.HeadersDiffer
      (bearerConfig token').server where
  plugins := .cons ⟨rfl, rfl, rfl, .headers (by simp) rfl rfl⟩ .nil
  others := rfl

theorem exported_server_same_bearer :
    (buildConfigSnapshotExport plainUrls "2" (bearerConfig "t")
        exportedPath).server.toValue =
      (buildConfigSnapshotExport plainUrls "1" (bearerConfig "t")
        exportedPath).server.toValue :=
  (exported_server_eq_iff plainUrls (headersDiffer_bearerConfig "t" "t") "1"
    "2" exportedPath exportedPath).2.mpr (.cons rfl .nil)

/-- Two configurations with other tokens have other server sections. -/
theorem exported_server_leaks_bearer :
    (bearerConfig "t").server.HeadersDiffer (bearerConfig "u").server ∧
      (buildConfigSnapshotExport plainUrls "2" (bearerConfig "u")
          exportedPath).server.toValue ≠
        (buildConfigSnapshotExport plainUrls "1" (bearerConfig "t")
          exportedPath).server.toValue := by
  refine ⟨headersDiffer_bearerConfig "t" "u", fun hvalue => ?_⟩
  have hvalues : SameHeaderValues (bearerConfig "t").server.plugins
      (bearerConfig "u").server.plugins :=
    sameHeaderValues_of_toValue_eq (plugins_eq_of_toValue_eq hvalue)
  obtain ⟨htoken, -⟩ := List.forall₂_cons.mp hvalues
  have hsame : [Value.string "u"] = [Value.string "t"] := htoken
  simp at hsame

end ServiceRouter
