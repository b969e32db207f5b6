import LineEcho.Proofs.Config.Loading
import LineEcho.Proofs.Config.Settings

/-!
# Saving and loading

A configuration that has been saved loads as what it was, unless it is not valid: then the file is
refused for that reason.  One with a count that no document can hold is not saved.
-/

namespace LineEcho.Config

theorem ne_none_of_mapM_id {pieces : List (Option (List Char))} {texts : List (List Char)}
    (all : pieces.mapM id = some texts) : none ∉ pieces := by
  induction pieces generalizing texts with
  | nil => exact nofun
  | cons piece rest ih =>
    rw [List.mapM_cons] at all
    obtain ⟨text, piece_eq, all⟩ := Option.bind_eq_some_iff.1 all
    obtain ⟨others, rest_eq, _⟩ := Option.bind_eq_some_iff.1 all
    obtain rfl : piece = some text := piece_eq
    simpa using ih rest_eq

theorem le_of_tomlNumber (name : String) {number : Nat} (written : tomlNumber name number ≠ none) :
    number ≤ Word.greatestSigned := by
  unfold tomlNumber at written
  split at written
  · rename_i fits
    exact Nat.le_of_lt_succ fits
  · exact absurd rfl written

theorem holdable_of_tomlTimeout (name : String) {timeout : Option UInt64}
    (written : tomlTimeout name timeout ≠ none) : Holdable timeout := by
  rintro limit rfl
  exact le_of_tomlNumber name written

theorem fits_of_toToml? {config : Config} {text : String} (written : config.toToml? = some text) :
    config.Fits := by
  obtain ⟨texts, all, _⟩ := Option.map_eq_some_iff.1 written
  have piece {piece : Option (List Char)} (member : piece ∈ config.tomlPieces) : piece ≠ none :=
    fun missing => ne_none_of_mapM_id all (missing ▸ member)
  exact
    { service :=
        { bufferSize := le_of_tomlNumber "buffer_size" (piece (by simp [tomlPieces]))
          readTimeout := holdable_of_tomlTimeout "read_timeout_ms" (piece (by simp [tomlPieces]))
          writeTimeout :=
            holdable_of_tomlTimeout "write_timeout_ms" (piece (by simp [tomlPieces])) }
      client :=
        { connectTimeout :=
            holdable_of_tomlTimeout "connect_timeout_ms" (piece (by simp [tomlPieces]))
          writeTimeout :=
            holdable_of_tomlTimeout "write_timeout_ms" (piece (by simp [tomlPieces]))
          echoTimeout :=
            holdable_of_tomlTimeout "echo_timeout_ms" (piece (by simp [tomlPieces])) } }

theorem toToml?_of_not_fits {config : Config} (tooGreat : ¬config.Fits) :
    config.toToml? = none := by
  cases written : config.toToml? with
  | none => rfl
  | some text => exact absurd (fits_of_toToml? written) tooGreat

/-- **Saving and loading.**  A configuration whose counts all fit is saved under any path that can
be written, and what is there then loads as this very configuration if it is valid, and is refused
for what makes it invalid otherwise.  A configuration with a count that does not fit is not saved:
there is an error and no file system with a new file in it, whatever the path. -/
theorem saved_config_loads (config : Config) (fileSystem : FileSystem) (path : String) :
    (config.Fits → fileSystem.IsWritable path →
      ∃ written, config.save path fileSystem = .ok written ∧
        load written path = config.validate.map (fun _ => config)) ∧
    (¬config.Fits →
      config.save path fileSystem =
        .error (.config ("Failed to serialize config: " ++ unwritable))) := by
  constructor
  · intro fits writable
    obtain ⟨written, saved, read⟩ := writable.readText (String.ofList (config.document fits))
    refine ⟨written, ?_, ?_⟩
    · rw [save, toToml?_of_fits config fits]
      simp only [saved]
    · refine load_of_parses read ?_
      rw [String.toList_ofList, ofToml_document]
  · intro tooGreat
    rw [save, toToml?_of_not_fits tooGreat]

/-- A host with a line break, both quotes, an escape and a control character. -/
def oddHost : Config :=
  { (default : Config) with
    service :=
      { (default : ServiceConfig) with host := "it's\n\"\\\x07\"", readTimeout := some 5 } }

/-- A limit beyond the greatest integer of a document. -/
def endless : Config :=
  { (default : Config) with
    client := { (default : ClientConfig) with echoTimeout := some 9223372036854775808 } }

theorem saved_config_loads_oddHost :
    (oddHost.Fits ∧ (default : FileSystem).IsWritable "c.toml" ∧
      ∃ written, oddHost.save "c.toml" default = .ok written ∧
        load written "c.toml" = .ok oddHost) ∧
    ¬endless.Fits ∧
      endless.save "c.toml" default =
        .error (.config ("Failed to serialize config: " ++ unwritable)) := by
  have fits : oddHost.Fits := by decide
  have writable : (default : FileSystem).IsWritable "c.toml" := ⟨[], _, rfl⟩
  have tooGreat : ¬endless.Fits := by decide
  exact ⟨⟨fits, writable, (saved_config_loads oddHost default "c.toml").1 fits writable⟩,
    tooGreat, (saved_config_loads endless default "c.toml").2 tooGreat⟩

end LineEcho.Config
