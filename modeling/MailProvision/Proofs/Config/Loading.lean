import MailProvision.Config.Load
import MailProvision.Proofs.Config.Sections
import MailProvision.Proofs.Settings.Fields
import MailProvision.Proofs.Settings.Integers.Files

/-!
# Loading a configuration

A configuration is loaded if there is a file, its settings can be gathered and they can be read
(`load_eq_ok_iff`). What the settings give for a key comes from the one variable that bears on it
(`look_of_variable`), or from the file if no variable does (`look_of_file`).
-/

namespace MailProvision

open Settings

namespace Config

section Load

variable {library : Library} {tree : FileTree} {workingDirectory : Location}
  {environment : List (String × String)} {path : Option String} {located : String}
  {settings : Value}

theorem load_eq_ok_iff {config : Config} :
    load library tree workingDirectory environment path = .ok config ↔
      ∃ located settings, locate tree workingDirectory path = some located ∧
        gather library tree workingDirectory environment located = .ok settings ∧
        read settings = .ok config := by
  unfold load
  cases locate tree workingDirectory path with
  | none => simp
  | some located =>
      simp only [fromFile, bind_eq_ok_iff, mapError_eq_ok_iff, Option.some.injEq,
        exists_and_left, exists_eq_left']

theorem gather_eq_ok_iff :
    gather library tree workingDirectory environment located = .ok settings ↔
      ∃ file, File.layer library tree workingDirectory located = .ok file ∧
        settings = Entries.collect library.order [file, Environment.layer environment] := by
  rw [gather, bind_eq_ok_iff]
  refine exists_congr fun file => and_congr_right fun _ => ?_
  constructor
  · rintro ⟨⟩
    rfl
  · rintro rfl
    rfl

theorem fits_gather
    (gathered : gather library tree workingDirectory environment located = .ok settings) :
    settings.Fits := by
  rcases gather_eq_ok_iff.1 gathered with ⟨file, fileRead, rfl⟩
  refine Entries.fits_collect (fun layer member => ?_) library.order
  rcases List.mem_cons.mp member with rfl | member
  · exact File.fits_layer fileRead
  · obtain rfl := List.mem_singleton.mp member
    exact Environment.fits_layer environment

theorem gather_of_layer {file : Entries}
    (fileRead : File.layer library tree workingDirectory located = .ok file)
    (environment : List (String × String)) :
    gather library tree workingDirectory environment located =
      .ok (Entries.collect library.order [file, Environment.layer environment]) :=
  gather_eq_ok_iff.2 ⟨file, fileRead, rfl⟩

theorem load_eq (found : locate tree workingDirectory path = some located)
    (gathered : gather library tree workingDirectory environment located = .ok settings) :
    load library tree workingDirectory environment path =
      (read settings).mapError (.unusable located) := by
  rw [load, found]
  simp only [fromFile, gathered]
  rfl

theorem read_of_load {config : Config}
    (found : locate tree workingDirectory path = some located)
    (gathered : gather library tree workingDirectory environment located = .ok settings)
    (loaded : load library tree workingDirectory environment path = .ok config) :
    read settings = .ok config := by
  rw [load_eq found gathered] at loaded
  exact (mapError_eq_ok_iff _).1 loaded

end Load

theorem read_collect_iff {order : Order} {layers : List Entries} {config : Config} :
    read (Entries.collect order layers) = .ok config ↔
      ∀ area : Area,
        area.Takes ((Entries.collect order layers).asTable.2.get? area.title) config := by
  rw [Entries.collect_eq]
  exact read_table_iff

/-- A single file in the root. -/
def fileAlone (name text : String) : FileTree :=
  ⟨[([.text name], .file 0o644 text.toUTF8.data.toList)]⟩

/-! ### Keys and their paths -/

namespace Area

/-- The path of a key of the section. -/
def path (area : Area) (name : String) : String :=
  area.title ++ "." ++ name

theorem isSection_title (area : Area) : Entries.IsSection area.title := by
  cases area <;> exact ⟨by decide, by decide⟩

end Area

theorem isSetting_path (area : Area) {name : String} (isName : KeyPath.IsName name)
    (small : Text.lower name = name) :
    Entries.IsSetting area.title name (area.path name) where
  isSection := area.isSection_title
  small := small
  smallPath := Text.lower_eq_self_iff.2 fun c member => by
    simp only [Area.path, String.toList_append, List.mem_append] at member
    rcases member with (title | point) | last
    · exact Text.lower_eq_self_iff.1 area.isSection_title.small c title
    · obtain rfl := List.mem_singleton.mp point
      decide
    · exact Text.lower_eq_self_iff.1 small c last
  parsed := KeyPath.parse?_join area.isSection_title.isName isName

theorem TextKey.isSetting (key : TextKey) :
    Entries.IsSetting key.area.title key.name (key.area.path key.name) := by
  cases key <;> exact isSetting_path _ (by decide) (by decide)

theorem NumberKey.isSetting (key : NumberKey) :
    Entries.IsSetting key.area.title key.name (key.area.path key.name) := by
  cases key <;> exact isSetting_path _ (by decide) (by decide)

namespace Area

theorem fits_find? {area : Area} {record : Value} (fits : record.Fits) (name : String) :
    FitsIfAny (area.find? record name) := by
  intro value found
  rcases Option.bind_eq_some_iff.mp found with ⟨fields, recorded, found⟩
  rcases Option.map_eq_some_iff.mp found with ⟨⟨step, _⟩, located, rfl⟩
  cases record with
  | scalar origin content => cases recorded
  | table origin entries =>
      cases recorded
      rcases Option.map_eq_some_iff.mp located with ⟨_, found, same⟩
      cases same
      exact Entries.fits_get? fits.asTable.values name _ found
  | array origin items =>
      cases recorded
      rcases Option.map_eq_some_iff.mp located with ⟨_, found, same⟩
      cases same
      exact fits.asArray _ (List.mem_of_getElem? found)


theorem find?_table (area : Area) (origin : Option Origin) (entries : Entries) :
    area.find? (.table origin entries) = entries.get? := by
  funext name
  rw [@find?_eq area (.table origin entries) _ rfl, congrFun (located_named area.shape entries)]

theorem look_of_field {area : Area} {settings : Value} {name : String} {above : Option Origin}
    {fields : Entries} {value : Value}
    (record : settings.asTable.2.get? area.title = some (.table above fields))
    (found : Entries.get? fields name = some value) :
    area.look settings.asTable.2 name = some value := by
  rw [look, record, Option.bind_some, find?_table]
  exact found

variable {area : Area} {name : String} {order : Order} {file : Entries}
  {environment : List (String × String)}

/-- The only variable that bears on a key gives its value, whatever the file has. -/
theorem look_of_variable (isSetting : Entries.IsSetting area.title name (area.path name))
    (wellSpelled : ∀ key ∈ file.keys, Entries.WellSpelled area.title key)
    {variableName text : String}
    (sole : Environment.Sole area.title name (area.path name) variableName text environment) :
    area.look (Entries.collect order [file, Environment.layer environment]).asTable.2 name =
      some (.scalar (some .environment) (Environment.content text)) := by
  rcases sole.layer_eq isSetting with ⟨front, back, split, before, after⟩
  have layers : [file, Environment.layer environment].flatten =
      (file ++ front) ++ (area.path name, .scalar (some .environment) (Environment.content text)) ::
        back := by
    simp [split]
  have spelled : ∀ key ∈ (file ++ front).keys, Entries.WellSpelled area.title key := by
    intro key member
    rw [Entries.keys, List.map_append] at member
    rcases List.mem_append.mp member with given | early
    · exact wellSpelled key given
    · exact (before key early).wellSpelled
  rcases Entries.field_of_given isSetting.isSection layers spelled (.path isSetting) after with
    ⟨above, fields, record, found⟩
  exact look_of_field record found

/-- Without such a variable the only entry of the file that bears on a key gives its value. -/
theorem look_of_file (isSection : Entries.IsSection area.title) (distinct : file.keys.Nodup)
    {entry : String × Value} {origin : Option Origin} {content : Scalar} (given : entry ∈ file)
    (gives : Entries.GivesField area.title name (.scalar origin content) entry)
    (apart : ∀ key ∈ file.keys, key ≠ entry.1 → Entries.Apart area.title name key)
    (silent : Environment.Silent area.title name environment) :
    area.look (Entries.collect order [file, Environment.layer environment]).asTable.2 name =
      some (.scalar origin content) := by
  rcases List.append_of_mem given with ⟨front, back, rfl⟩
  rw [Entries.keys, List.map_append, List.map_cons] at distinct apart
  rcases List.nodup_append.mp distinct with ⟨_, last, different⟩
  have layers : [front ++ entry :: back, Environment.layer environment].flatten =
      front ++ entry :: (back ++ Environment.layer environment) := by
    simp
  have before : ∀ key ∈ Entries.keys front, Entries.WellSpelled area.title key := by
    intro key member
    refine (apart key (List.mem_append_left _ member) ?_).wellSpelled
    exact different key member entry.1 List.mem_cons_self
  have after : ∀ key ∈ Entries.keys (back ++ Environment.layer environment),
      Entries.Apart area.title name key := by
    intro key member
    rw [Entries.keys, List.map_append] at member
    rcases List.mem_append.mp member with rest | set
    · refine apart key (List.mem_append_right _ (List.mem_cons_of_mem _ rest)) ?_
      rintro rfl
      exact (List.nodup_cons.mp last).1 rest
    · exact Environment.apart_of_silent silent key set
  rcases Entries.field_of_given isSection layers before gives after with
    ⟨above, fields, record, found⟩
  exact look_of_field record found

end Area

end Config

end MailProvision
