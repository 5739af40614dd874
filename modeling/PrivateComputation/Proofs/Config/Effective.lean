import PrivateComputation.Config.Effective
import PrivateComputation.Proofs.Config.Merge
import PrivateComputation.Proofs.Config.Toml
import PrivateComputation.Proofs.Outcomes

/-!
What the files of a configuration hold, and what of it is in effect. A value is in effect where no
higher layer has a say, unless it is a float that JSON has no number for: such a float does not
count, and what the lower layers hold stays.
-/

namespace PrivateComputation

namespace Toml

/-! ## Values of a document -/

def get? (key : String) : Toml → Option Toml
  | .table entries => entries.lookup key
  | _ => none

def at? (toml : Toml) (path : List String) : Option Toml :=
  path.foldlM (fun toml key => toml.get? key) toml

def IsLeaf : Toml → Prop
  | .table _ => False
  | _ => True

/-- A float that is equal to no JSON number. -/
inductive Unrepresented : Toml → Prop
  | infinite (negative : Bool) : Unrepresented (.float (.infinite negative))
  | nan : Unrepresented (.float .nan)

/-- The JSON value that says the same. -/
inductive HasForm : Toml → Json → Prop
  | string (value : String) : HasForm (.string value) (.string value)
  | integer (value : Int) : HasForm (.integer value) (.number (.integer value))
  | float (value : Binary64) : HasForm (.float (.finite value)) (.number (.float value))
  | boolean (value : Bool) : HasForm (.boolean value) (.bool value)
  | dateTime (value : TomlDateTime) :
      HasForm (.dateTime value) (.string (String.ofList value.toChars))
  | array {items : List Toml} {jsons : List Json} (length : items.length = jsons.length)
      (each : ∀ (place : Nat) (item : Toml) (json : Json), items[place]? = some item →
        jsons[place]? = some json → HasForm item json) : HasForm (.array items) (.array jsons)
  | table {entries : List (String × Toml)} {members : List (String × Json)}
      (keys : entries.map Prod.fst = members.map Prod.fst)
      (each : ∀ (place : Nat) (key name : String) (value : Toml) (json : Json),
        entries[place]? = some (key, value) → members[place]? = some (name, json) →
          HasForm value json) : HasForm (.table entries) (.object members)

theorem at?_cons (toml : Toml) (key : String) (path : List String) :
    toml.at? (key :: path) = (toml.get? key).bind (fun value => value.at? path) := rfl

theorem lookup_entriesToJson (entries : List (String × Toml)) (key : String) :
    (entriesToJson entries).lookup key = (entries.lookup key).map toJson := by
  induction entries with
  | nil => rfl
  | cons entry entries ih =>
      obtain ⟨name, value⟩ := entry
      rw [entriesToJson, lookup_entry, lookup_entry, ih]
      by_cases same : key = name <;> simp [same]

theorem get?_toJson (toml : Toml) (key : String) :
    toml.toJson.get? key = (toml.get? key).map toJson := by
  cases toml with
  | table entries => exact lookup_entriesToJson entries key
  | float value => cases value <;> rfl
  | _ => rfl

theorem at?_toJson (toml : Toml) (path : List String) :
    toml.toJson.at? path = (toml.at? path).map toJson := by
  induction path generalizing toml with
  | nil => rfl
  | cons key path ih =>
      rw [Json.at?_cons, at?_cons, get?_toJson]
      cases toml.get? key with
      | none => rfl
      | some value => exact ih value

theorem IsLeaf.toJson {value : Toml} (leaf : value.IsLeaf) (plain : ¬value.Unrepresented) :
    value.toJson.IsLeaf := by
  cases value with
  | string value => exact .string value
  | integer value => exact .number _
  | boolean value => exact .bool value
  | dateTime value => exact .string _
  | array items => exact .array _
  | table entries => exact leaf.elim
  | float value =>
      cases value with
      | finite value => exact .number _
      | infinite negative => exact absurd (.infinite negative) plain
      | nan => exact absurd .nan plain

theorem Unrepresented.toJson {value : Toml} (odd : value.Unrepresented) : value.toJson = .null := by
  cases odd <;> rfl

theorem HasForm.not_unrepresented {value : Toml} {json : Json} (form : value.HasForm json) :
    ¬value.Unrepresented := by
  cases form <;> rintro ⟨⟩

theorem HasForm.toJson {value : Toml} {json : Json} (form : value.HasForm json) :
    value.toJson = json := by
  induction form with
  | string value => rfl
  | integer value => rfl
  | float value => rfl
  | boolean value => rfl
  | dateTime value => rfl
  | @array items jsons length each ih =>
      rw [Toml.toJson, itemsToJson_eq_map]
      refine congrArg Json.array (List.ext_getElem (by simpa using length) ?_)
      intro place inItems inJsons
      rw [List.length_map] at inItems
      rw [List.getElem_map]
      exact ih place _ _ (List.getElem?_eq_getElem inItems) (List.getElem?_eq_getElem inJsons)
  | @table entries members keys each ih =>
      have length : entries.length = members.length := by simpa using congrArg List.length keys
      rw [Toml.toJson, entriesToJson_eq_map]
      refine congrArg Json.object (List.ext_getElem (by simpa using length) ?_)
      intro place inEntries inMembers
      rw [List.length_map] at inEntries
      rw [List.getElem_map]
      apply Prod.ext
      · have same := congrArg (fun names => names[place]?) keys
        simpa [inEntries, inMembers] using same
      · exact ih place _ _ _ _ (List.getElem?_eq_getElem inEntries)
          (List.getElem?_eq_getElem inMembers)

end Toml

namespace Json

theorem valueAt_of_at? {json value : Json} {path : List String}
    (held : json.at? path = some value) : json.valueAt path = value := by
  rw [valueAt, held, Option.getD_some]

theorem at?_of_valueAt {json value : Json} {path : List String}
    (held : json.valueAt path = value) (solid : value ≠ .null) : json.at? path = some value := by
  subst held
  rw [valueAt] at solid ⊢
  cases found : json.at? path with
  | none => exact absurd (found ▸ rfl) solid
  | some value => rfl

theorem not_cutsOff_of_at? {json value : Json} {path : List String}
    (held : json.at? path = some value) : ¬json.CutsOff path := by
  induction path generalizing json with
  | nil => exact not_cutsOff_nil json
  | cons name path ih =>
      rw [at?_cons] at held
      obtain ⟨inner, found, held⟩ := Option.bind_eq_some_iff.mp held
      have inside : json.valueAt [name] = inner := by
        apply valueAt_of_at?
        rw [at?_cons, found]
        rfl
      rw [cutsOff_cons_iff, inside]
      rintro (leaf | cut)
      · cases leaf <;> cases found
      · exact ih held cut

section Layers

variable {lower upper : List Json} {layer : Json} {path : List String}

theorem at?_mergeLayers_of_leaf (sorted : ∀ other ∈ lower ++ layer :: upper, other.Sorted)
    (alone : ∀ above ∈ upper, above.LeavesAlone path) (leaf : (layer.valueAt path).IsLeaf) :
    (mergeLayers (lower ++ layer :: upper)).at? path = some (layer.valueAt path) := by
  have last : HasLastWord (lower ++ layer :: upper) path layer := ⟨lower, upper, rfl, alone⟩
  obtain ⟨base, held⟩ := last.valueAt_mergeLayers sorted
  have uncut : ¬layer.CutsOff path := fun cut => leaf.ne_null cut.valueAt
  rw [(valueAt_merge (last.sorted sorted) base path).2 uncut, leaf.merge_right] at held
  exact at?_of_valueAt held leaf.ne_null

theorem valueAt_mergeLayers_of_alone (sorted : ∀ other ∈ lower ++ layer :: upper, other.Sorted)
    (alone : ∀ above ∈ layer :: upper, above.LeavesAlone path) :
    (mergeLayers (lower ++ layer :: upper)).valueAt path = (mergeLayers lower).valueAt path := by
  obtain ⟨-, sorted⟩ := List.forall_mem_append.mp sorted
  rw [mergeLayers, List.foldl_append]
  exact valueAt_foldl_of_leavesAlone sorted alone _

end Layers

end Json

/-! ## What is in effect -/

/-- What becomes of a value at a path: a configuration holds it there, unless it is a float without
a JSON number. Then nothing but the lower layers counts. -/
structure Toml.TakesEffect (value : Toml) (path : List String) (tree lower : Json) : Prop where
  used : ¬value.Unrepresented → tree.at? path = some value.toJson
  written : ∀ json, value.HasForm json → tree.at? path = some json
  passedOver : value.Unrepresented → tree.valueAt path = lower.valueAt path

theorem Toml.takesEffect_of_layer {lower upper : List Json} {toml value : Toml}
    {path : List String} (sorted : ∀ other ∈ lower ++ toml.toJson :: upper, other.Sorted)
    (alone : ∀ above ∈ upper, above.LeavesAlone path) (held : toml.at? path = some value)
    (leaf : value.IsLeaf) :
    value.TakesEffect path (Json.mergeLayers (lower ++ toml.toJson :: upper))
      (Json.mergeLayers lower) := by
  have there : toml.toJson.at? path = some value.toJson := by rw [at?_toJson, held, Option.map_some]
  have used (plain : ¬value.Unrepresented) :
      (Json.mergeLayers (lower ++ toml.toJson :: upper)).at? path = some value.toJson := by
    have same := Json.valueAt_of_at? there
    rw [← same]
    apply Json.at?_mergeLayers_of_leaf sorted alone
    rw [same]
    exact leaf.toJson plain
  constructor
  · exact used
  · intro json form
    rw [used form.not_unrepresented, form.toJson]
  · intro odd
    apply Json.valueAt_mergeLayers_of_alone sorted
    refine List.forall_mem_cons.mpr ⟨Json.leavesAlone_iff.mpr ?_, alone⟩
    exact ⟨Json.valueAt_of_at? (odd.toJson ▸ there), Json.not_cutsOff_of_at? there⟩

namespace ConfigFile

/-- A file is there and holds a TOML document. -/
def Reads (file : ConfigFile) (toml : Toml) : Prop :=
  ∃ bytes text, file.content = .ok bytes ∧ String.fromUTF8? bytes = some text ∧
    Toml.ofText text = some toml

theorem Reads.unique {file : ConfigFile} {one other : Toml} (read : file.Reads one)
    (readAgain : file.Reads other) : one = other := by
  obtain ⟨bytes, text, content, decoded, parsed⟩ := read
  obtain ⟨otherBytes, otherText, otherContent, otherDecoded, otherParsed⟩ := readAgain
  cases content.symm.trans otherContent
  cases decoded.symm.trans otherDecoded
  exact Option.some.inj (parsed.symm.trans otherParsed)

theorem Reads.sorted {file : ConfigFile} {toml : Toml} (read : file.Reads toml) : toml.Sorted := by
  obtain ⟨bytes, text, -, -, parsed⟩ := read
  exact Toml.sorted_of_ofText parsed

theorem exists_layer_iff (file : ConfigFile) (layer : Json) :
    (∃ digest, file.layer = .ok (layer, digest)) ↔
      ∃ toml, file.Reads toml ∧ toml.toJson = layer := by
  unfold ConfigFile.layer Reads
  cases file.content with
  | error fault => exact iff_of_false (by rintro ⟨digest, ⟨⟩⟩) (by rintro ⟨_, ⟨_, _, ⟨⟩, _⟩, _⟩)
  | ok bytes =>
      simp only [Except.mapError, Except.ok.injEq, exists_and_left, exists_eq_left', Bind.bind,
        Except.bind]
      cases String.fromUTF8? bytes with
      | none => simp
      | some text => cases parsed : Toml.ofText text <;> simp [parsed]

theorem exists_load_iff (origin : ConfigOrigin) (file : Option ConfigFile) (layers : List Json) :
    (∃ loaded, load origin file = .ok loaded ∧ loaded.map Prod.fst = layers) ↔
      ∃ table, Option.Rel Reads file table ∧ table.toList.map Toml.toJson = layers := by
  cases file with
  | none =>
      constructor
      · rintro ⟨loaded, ⟨⟩, rfl⟩
        exact ⟨none, .none, rfl⟩
      · rintro ⟨table, ⟨⟩, rfl⟩
        exact ⟨[], rfl, rfl⟩
  | some file =>
      constructor
      · rintro ⟨loaded, done, rfl⟩
        obtain ⟨⟨layer, digest⟩, loads, done⟩ := exists_of_bind_eq_ok done
        cases done
        obtain ⟨toml, read, rfl⟩ := (exists_layer_iff file layer).mp ⟨digest, loads⟩
        exact ⟨some toml, .some read, rfl⟩
      · rintro ⟨table, related, rfl⟩
        cases related with
        | @some _ toml read =>
            obtain ⟨digest, loads⟩ := (exists_layer_iff file toml.toJson).mpr ⟨toml, read, rfl⟩
            refine ⟨[(toml.toJson, ⟨origin, some (file.path, digest)⟩)], ?_, rfl⟩
            rw [load, loads]
            rfl

end ConfigFile

namespace EffectiveConfig

def layers (host repo : Option Toml) (overrides : Option SortedJson) : List Json :=
  Settings.defaults.json :: (host.toList.map Toml.toJson ++ repo.toList.map Toml.toJson ++
    overrides.toList.map SortedJson.json)

theorem map_fst_loaded {hostLayers repoLayers : List (Json × ConfigSource)}
    {host repo : Option Toml} (hostSame : host.toList.map Toml.toJson = hostLayers.map Prod.fst)
    (repoSame : repo.toList.map Toml.toJson = repoLayers.map Prod.fst)
    (overrides : Option SortedJson) :
    List.map Prod.fst ((Settings.defaults.json, ConfigSource.mk .builtin none) ::
      (hostLayers ++ repoLayers ++
        overrides.toList.map (fun layer => (layer.json, ConfigSource.mk .cli none)))) =
      layers host repo overrides := by
  simp [layers, hostSame, repoSame, Function.comp_def]

theorem exists_build_iff (createdAt : Instant) (host repo : Option ConfigFile)
    (overrides : Option SortedJson) (tree : Json) :
    (∃ config, build createdAt host repo overrides = .ok config ∧ config.tree = tree) ↔
      ∃ hostTable repoTable, Option.Rel ConfigFile.Reads host hostTable ∧
        Option.Rel ConfigFile.Reads repo repoTable ∧
        Json.mergeLayers (layers hostTable repoTable overrides) = tree ∧
        ∃ settings, Settings.ofJson tree = .ok settings := by
  constructor
  · rintro ⟨config, built, rfl⟩
    obtain ⟨hostLayers, hostLoaded, built⟩ := exists_of_bind_eq_ok built
    obtain ⟨repoLayers, repoLoaded, built⟩ := exists_of_bind_eq_ok built
    obtain ⟨hostTable, hostRead, hostSame⟩ :=
      (ConfigFile.exists_load_iff .host host _).mp ⟨hostLayers, hostLoaded, rfl⟩
    obtain ⟨repoTable, repoRead, repoSame⟩ :=
      (ConfigFile.exists_load_iff .repo repo _).mp ⟨repoLayers, repoLoaded, rfl⟩
    obtain ⟨settings, valid, built⟩ := exists_of_bind_eq_ok built
    cases built
    rw [map_fst_loaded hostSame repoSame] at valid ⊢
    refine ⟨hostTable, repoTable, hostRead, repoRead, rfl, settings, ?_⟩
    cases judged : Settings.ofJson (Json.mergeLayers (layers hostTable repoTable overrides)) with
    | error cause =>
        rw [judged] at valid
        cases valid
    | ok found =>
        rw [judged] at valid
        cases valid
        rfl
  · rintro ⟨hostTable, repoTable, hostRead, repoRead, rfl, settings, valid⟩
    obtain ⟨hostLayers, hostLoaded, hostSame⟩ :=
      (ConfigFile.exists_load_iff .host host _).mpr ⟨hostTable, hostRead, rfl⟩
    obtain ⟨repoLayers, repoLoaded, repoSame⟩ :=
      (ConfigFile.exists_load_iff .repo repo _).mpr ⟨repoTable, repoRead, rfl⟩
    have tree := map_fst_loaded hostSame.symm repoSame.symm overrides
    rw [build, hostLoaded, repoLoaded]
    simp only [Bind.bind, Except.bind, tree, valid, Except.mapError]
    exact ⟨_, rfl, rfl⟩

theorem sorted_table {file : Option ConfigFile} {table : Option Toml}
    (read : Option.Rel ConfigFile.Reads file table) :
    ∀ layer ∈ table.toList.map Toml.toJson, layer.Sorted := by
  cases read with
  | none => simp
  | some read =>
      intro layer member
      obtain rfl : layer = _ := by simpa using member
      exact read.sorted

theorem sorted_layers {host repo : Option ConfigFile} {hostTable repoTable : Option Toml}
    (overrides : Option SortedJson) (hostRead : Option.Rel ConfigFile.Reads host hostTable)
    (repoRead : Option.Rel ConfigFile.Reads repo repoTable) :
    ∀ layer ∈ layers hostTable repoTable overrides, layer.Sorted := by
  rw [layers, List.forall_mem_cons]
  refine ⟨Settings.defaults.sorted, ?_⟩
  intro layer member
  rcases List.mem_append.mp member with inFiles | inOverrides
  · rcases List.mem_append.mp inFiles with inHost | inRepo
    · exact sorted_table hostRead layer inHost
    · exact sorted_table repoRead layer inRepo
  · obtain ⟨given, -, rfl⟩ := List.mem_map.mp inOverrides
    exact given.sorted

end EffectiveConfig

/-- A configuration that is built has read all files that are there, and every value in them is in
effect at its path if the layers above leave the path alone: the configuration holds its JSON value
there. Only a float without a JSON number is passed over, and what the layers below hold stays. -/
theorem configured_values_in_effect (createdAt : Instant) (host repo : Option ConfigFile)
    (overrides : Option SortedJson) (config : EffectiveConfig)
    (built : EffectiveConfig.build createdAt host repo overrides = .ok config) :
    ∃ hostTable repoTable : Option Toml,
      Option.Rel ConfigFile.Reads host hostTable ∧ Option.Rel ConfigFile.Reads repo repoTable ∧
      (∀ toml path value, hostTable = some toml → toml.at? path = some value → value.IsLeaf →
        (∀ layer ∈ repoTable.toList.map Toml.toJson ++ overrides.toList.map SortedJson.json,
          layer.LeavesAlone path) →
        value.TakesEffect path config.tree (Json.mergeLayers [Settings.defaults.json])) ∧
      ∀ toml path value, repoTable = some toml → toml.at? path = some value → value.IsLeaf →
        (∀ layer ∈ overrides, layer.json.LeavesAlone path) →
        value.TakesEffect path config.tree
          (Json.mergeLayers (Settings.defaults.json :: hostTable.toList.map Toml.toJson)) := by
  obtain ⟨hostTable, repoTable, hostRead, repoRead, tree, -⟩ :=
    (EffectiveConfig.exists_build_iff createdAt host repo overrides config.tree).mp
      ⟨config, built, rfl⟩
  have ordered := EffectiveConfig.sorted_layers overrides hostRead repoRead
  refine ⟨hostTable, repoTable, hostRead, repoRead, ?_, ?_⟩
  · rintro toml path value rfl held leaf alone
    rw [← tree]
    have split : EffectiveConfig.layers (some toml) repoTable overrides =
        [Settings.defaults.json] ++ toml.toJson ::
          (repoTable.toList.map Toml.toJson ++ overrides.toList.map SortedJson.json) := by
      simp [EffectiveConfig.layers]
    rw [split] at ordered ⊢
    exact Toml.takesEffect_of_layer ordered alone held leaf
  · rintro toml path value rfl held leaf alone
    rw [← tree]
    have split : EffectiveConfig.layers hostTable (some toml) overrides =
        (Settings.defaults.json :: hostTable.toList.map Toml.toJson) ++ toml.toJson ::
          overrides.toList.map SortedJson.json := by
      simp [EffectiveConfig.layers]
    rw [split] at ordered ⊢
    exact Toml.takesEffect_of_layer ordered (by simpa using alone) held leaf

/-! ## Floats without a JSON number -/

theorem ConfigFile.reads_text (path text : String) {toml : Toml}
    (parsed : Toml.ofText text = some toml) :
    ConfigFile.Reads ⟨path, .ok text.toUTF8⟩ toml := by
  refine ⟨text.toUTF8, text, rfl, ?_, parsed⟩
  exact dif_pos text.isValidUTF8

def Toml.endlessText : String := "role = \"partner\"\n[owdl]\npoll_interval_ms = inf\n"

def Toml.endless : Toml :=
  .table [("owdl", .table [("poll_interval_ms", .float (.infinite false))]),
    ("role", .string "partner")]

/-- Documents have no decidable equality, so the shape is matched and the texts are compared. -/
def Toml.isEndless : Option Toml → Bool
  | some (.table [(owdl, .table [(interval, .float (.infinite false))]), (role, .string partner)]) =>
      [owdl, interval, role, partner] = ["owdl", "poll_interval_ms", "role", "partner"]
  | _ => false

theorem Toml.eq_of_isEndless {toml : Option Toml} (same : isEndless toml = true) :
    toml = some .endless := by
  unfold isEndless at same
  split at same
  · cases of_decide_eq_true same
    rfl
  · cases same

theorem Toml.ofText_endlessText : ofText endlessText = some .endless :=
  eq_of_isEndless (by decide +kernel)

def ConfigFile.endless : ConfigFile := ⟨"host.toml", .ok Toml.endlessText.toUTF8⟩

theorem ConfigFile.reads_endless : ConfigFile.endless.Reads .endless :=
  ConfigFile.reads_text _ _ Toml.ofText_endlessText

def SortedJson.fewOverrides : SortedJson :=
  .object (.ofList [("region", .string "eu-west-1"), ("role", .null)])

theorem SortedJson.fewOverrides_leavesAlone (name : String)
    (unset : fewOverrides.json.valueAt [name] = .null) (path : List String) :
    fewOverrides.json.LeavesAlone (name :: path) := by
  rw [Json.leavesAlone_iff, Json.valueAt_cons, Json.cutsOff_cons_iff, unset]
  refine ⟨Json.valueAt_null path, not_or.mpr ⟨nofun, ?_⟩⟩
  rintro ⟨front, next, back, -, leaf⟩
  rw [Json.valueAt_null] at leaf
  cases leaf

theorem configured_values_in_effect_of_endless :
    ∃ config,
      EffectiveConfig.build .epoch (some .endless) none (some .fewOverrides) = .ok config ∧
      config.tree.at? ["role"] = some (.string "partner") ∧
      config.tree.valueAt ["owdl", "poll_interval_ms"] = .ofNat 5000 := by
  obtain ⟨config, built, -⟩ :=
    (EffectiveConfig.exists_build_iff .epoch (some .endless) none (some .fewOverrides) _).mpr
      ⟨some .endless, none, .some ConfigFile.reads_endless, .none, rfl, _, rfl⟩
  obtain ⟨table, other, read, ⟨⟩, inEffect, -⟩ :=
    configured_values_in_effect .epoch _ _ _ config built
  cases read with
  | @some _ toml read =>
      obtain rfl := read.unique ConfigFile.reads_endless
      have role := inEffect _ ["role"] _ rfl rfl trivial
        (by simpa using SortedJson.fewOverrides_leavesAlone "role" rfl [])
      have interval := inEffect _ ["owdl", "poll_interval_ms"] _ rfl rfl trivial
        (by simpa using SortedJson.fewOverrides_leavesAlone "owdl" rfl ["poll_interval_ms"])
      exact ⟨config, built, role.used nofun, interval.passedOver (.infinite false)⟩

/-- The bound of the time between two polls is ten minutes, but a file that asks for an endless one
is accepted, and the built-in time is in effect. -/
theorem endless_interval_dropped :
    ConfigFile.endless.Reads .endless ∧
      Toml.endless.at? ["owdl", "poll_interval_ms"] = some (.float (.infinite false)) ∧
      ∃ config, EffectiveConfig.build .epoch (some .endless) none none = .ok config ∧
        config.tree.at? ["owdl", "poll_interval_ms"] = some (.ofNat 5000) := by
  obtain ⟨config, built, tree⟩ :=
    (EffectiveConfig.exists_build_iff .epoch (some .endless) none none _).mpr
      ⟨some .endless, none, .some ConfigFile.reads_endless, .none, rfl, _, rfl⟩
  refine ⟨ConfigFile.reads_endless, rfl, config, built, ?_⟩
  rw [tree]
  rfl

end PrivateComputation
