import FacetRules.Proofs.Json.Records
import FacetRules.Settings

/-!
# Saved settings

Settings are saved as a JSON object with a member for every field, and loading the file gives them
back, whatever characters the paths hold and however large the numbers are.  A path that is not
set is saved as null.  When members are taken out of the file, the fields they belong to have
their defaults, and the other ones are as they were saved.
-/

namespace FacetRules

namespace Text

def toBytes (s : String) : List UInt8 :=
  s.toUTF8.data.toList

theorem ofBytes?_toBytes (s : String) : ofBytes? (toBytes s) = some s := by
  show String.fromUTF8? s.toUTF8 = some s
  unfold String.fromUTF8?
  rw [String.toUTF8_eq_toByteArray, dif_pos s.isValidUTF8]
  rfl

end Text

open Json

namespace Wire

theorem roundTrips_optionalText : RoundTrips ofOptionalText (.nullable .text) where
  standard := by
    intro s
    cases s with
    | none => exact .null
    | some s => exact roundTrips_text.standard s
  decode_encode := by
    intro s
    cases s with
    | none => rfl
    | some s => exact congrArg (Option.map some) (roundTrips_text.decode_encode s)

/-- The JSON value of settings, of whose members only some are kept. -/
def ofSettingsKeeping (s : Settings) (kept : String -> Bool) : Value :=
  .record ((settingsMembers s).filter fun m => kept m.1)

theorem standard_settingsMembers {s : Settings} {m : String × Value}
    (h : m ∈ settingsMembers s) : m.2.Standard := by
  simp only [settingsMembers, List.mem_cons, List.not_mem_nil, or_false] at h
  rcases h with rfl | rfl | rfl | rfl | rfl
  · exact roundTrips_optionalText.standard s.dataDir
  · exact roundTrips_optionalText.standard s.categoriesFile
  · exact roundTrips_word64.standard s.pageSize
  · exact roundTrips_word64.standard s.dumpMaxLines
  · exact roundTrips_word64.standard s.maxRecords

theorem standard_ofSettingsKeeping (s : Settings) (kept : String -> Bool) :
    (ofSettingsKeeping s kept).Standard := by
  apply standard_record
  intro m hm
  exact standard_settingsMembers (List.mem_filter.mp hm).1

end Wire

namespace Settings

/-- The settings, with the defaults for the fields that are not kept. -/
def keeping (s : Settings) (kept : String -> Bool) : Settings where
  dataDir := if kept "data_dir" then s.dataDir else ({} : Settings).dataDir
  categoriesFile := if kept "categories_file" then s.categoriesFile
    else ({} : Settings).categoriesFile
  pageSize := if kept "page_size" then s.pageSize else ({} : Settings).pageSize
  dumpMaxLines := if kept "dump_max_lines" then s.dumpMaxLines else ({} : Settings).dumpMaxLines
  maxRecords := if kept "max_records" then s.maxRecords else ({} : Settings).maxRecords

end Settings

namespace Wire

theorem settings_ofSettingsKeeping (s : Settings) (kept : String -> Bool) :
    settings (ofSettingsKeeping s kept) = some (s.keeping kept) := by
  have hnames : (settingsMembers s).map Prod.fst =
      ["data_dir", "categories_file", "page_size", "dump_max_lines", "max_records"] := rfl
  have hfields : fields?
      ["data_dir", "categories_file", "page_size", "dump_max_lines", "max_records"]
      (ofSettingsKeeping s kept) = some ((settingsMembers s).filter fun m => kept m.1) := by
    apply fields?_record
    · intro m hm
      rw [<- hnames]
      exact List.mem_map_of_mem (List.mem_filter.mp hm).1
    · have hnodup : ((settingsMembers s).map Prod.fst).Nodup := by
        rw [hnames]
        decide
      exact (List.filter_sublist.map Prod.fst).nodup hnodup
  rw [settings, hfields]
  simp only [Option.bind_eq_bind, Option.bind_some]
  rw [Fields.optional_filter roundTrips_optionalText (settingsMembers s) "data_dir" rfl,
    Fields.optional_filter roundTrips_optionalText (settingsMembers s) "categories_file" rfl,
    Fields.optional_filter roundTrips_word64 (settingsMembers s) "page_size" rfl,
    Fields.optional_filter roundTrips_word64 (settingsMembers s) "dump_max_lines" rfl,
    Fields.optional_filter roundTrips_word64 (settingsMembers s) "max_records" rfl]
  rfl

end Wire

namespace Settings

/-- The path leads to a file with this text. -/
def HoldsText (storage : Storage) (path text : String) : Prop :=
  exists content : FileContent, storage path = .file content ∧
    content.plainBytes? = some (Text.toBytes text)

/-- The files after the settings were saved in a directory. -/
def save (s : Settings) (storage : Storage) (dir : String) : Storage := fun path =>
  if path = pathIn dir then .file [.plain (Text.toBytes s.print)] else storage path

theorem holdsText_save (s : Settings) (storage : Storage) (dir : String) :
    HoldsText (s.save storage dir) (pathIn dir) s.print := by
  refine ⟨[.plain (Text.toBytes s.print)], if_pos rfl, ?_⟩
  show some (Text.toBytes s.print ++ []) = _
  rw [List.append_nil]

theorem load_of_holdsText {storage : Storage} {dir text : String}
    (h : HoldsText storage (pathIn dir) text) : load storage dir = read (pathIn dir) text := by
  rcases h with ⟨content, hfile, hbytes⟩
  rw [load, hfile]
  simp only [hbytes, Option.bind_some, Text.ofBytes?_toBytes]

theorem read_of_ofSettingsKeeping {s : Settings} {kept : String -> Bool} {text : String}
    (h : Value.read? text.toList = some (Wire.ofSettingsKeeping s kept)) (path : String) :
    read path text = .ok (s.keeping kept) := by
  rw [read, h, Option.bind_some, Wire.settings_ofSettingsKeeping]

/-- Settings that were saved are loaded as they were.  A text that stands for the saved object
without some of its members, such as this object printed again, gives the settings in which the
fields of these members have their defaults. -/
theorem load_save (s : Settings) :
    (forall (storage : Storage) (dir : String), load (s.save storage dir) dir = .ok s) ∧
      (forall kept : String -> Bool, Value.read? (Wire.ofSettingsKeeping s kept).print.toList =
        some (Wire.ofSettingsKeeping s kept)) ∧
      forall (kept : String -> Bool) (storage : Storage) (dir text : String),
        Value.read? text.toList = some (Wire.ofSettingsKeeping s kept) ->
        HoldsText storage (pathIn dir) text -> load storage dir = .ok (s.keeping kept) := by
  have hread := fun kept => (Wire.standard_ofSettingsKeeping s kept).read?_print
  refine ⟨?_, hread, ?_⟩
  · intro storage dir
    have hall : Wire.ofSettingsKeeping s (fun _name => true) = Wire.ofSettings s := by
      rw [Wire.ofSettingsKeeping, List.filter_eq_self.mpr fun _m _hm => rfl]
      rfl
    have hprint := hread fun _name => true
    rw [hall] at hprint
    rw [load_of_holdsText (s.holdsText_save storage dir)]
    exact read_of_ofSettingsKeeping (hprint.trans (congrArg some hall.symm)) _
  · intro kept storage dir text htext hfile
    rw [load_of_holdsText hfile]
    exact read_of_ofSettingsKeeping htext _

/-- A path with quotation marks, a backslash, a control and a letter beyond ASCII, and the greatest
page size. -/
def unusual : Settings where
  dataDir := some "C:\\ü \"new\"\x01"
  pageSize := 18446744073709551615

/-- The unusual settings are loaded as they were saved, and so is the page size alone, in a text
that ends with a line break. -/
theorem load_save_unusual :
    load (unusual.save (fun _path => .missing) "settings") "settings" = .ok unusual ∧
      load (fun _path => .file [.plain (Text.toBytes
        "\x7b\n  \"page_size\": 18446744073709551615\n\x7d\n")]) "settings" =
        .ok { pageSize := 18446744073709551615 } := by
  have hprinted : "\x7b\n  \"page_size\": 18446744073709551615\n\x7d\n".toList =
      printValue 0 (Wire.ofSettingsKeeping unusual fun name => name == "page_size") ++
        ['\n'] := by
    decide +kernel
  have htext : Value.read? "\x7b\n  \"page_size\": 18446744073709551615\n\x7d\n".toList =
      some (Wire.ofSettingsKeeping unusual fun name => name == "page_size") := by
    rw [hprinted]
    apply (Wire.standard_ofSettingsKeeping unusual _).read?_append 0
    intro c hc
    rw [List.mem_singleton.mp hc]
    rfl
  refine ⟨(load_save unusual).1 _ "settings", ?_⟩
  exact (load_save unusual).2.2 _ _ "settings" _ htext ⟨_, rfl, congrArg some (List.append_nil _)⟩

end Settings
end FacetRules
