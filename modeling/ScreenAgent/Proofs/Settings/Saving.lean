import ScreenAgent.Proofs.Json.Indented
import ScreenAgent.Proofs.Json.Record
import ScreenAgent.Proofs.Text.Utf8
import ScreenAgent.Settings.Basic

namespace ScreenAgent

namespace Settings

theorem proper_toJson (s : Settings) : s.toJson.Proper := by
  apply Json.Proper.object
  simp [Json.Proper.text, Json.Proper.bool, Json.proper_nat]

theorem ofJson?_toJson (s : Settings) (levels : Nat) : ofJson? (levels + 1) s.toJson = some s := by
  have hr : s.toJson.record? ["device_id", "poll_interval_ms", "max_cycles", "buffer_capacity",
      "queue_capacity", "archive_experiences", "archive_path"] = some ⟨false, _⟩ :=
    Json.record?_ofMembers (by simp) (by simp)
  have hw : ∀ w : UInt64, (Json.nat w.toNat).word? = some w.toNat :=
    fun w => Json.word?_nat w.toNat_lt
  simp [ofJson?, hr, Json.Record.defaulted, hw]

theorem ofFile_toFile (s : Settings) : ofFile (some s.toFile) = s.withCapacities := by
  have ht : Text.Utf8.decode? s.toFile = some (Json.indented 0 s.toJson) := by
    rw [toFile, Json.toIndented, String.toList_ofList, Text.Utf8.decode?_encode]
  have hj := s.proper_toJson.read?_indented
  have hs : ofJson? Json.levelLimit s.toJson = some s := s.ofJson?_toJson 126
  simp [ofFile, ht, hj, hs]

theorem withCapacities_pos (s : Settings) :
    0 < s.withCapacities.bufferCapacity ∧ 0 < s.withCapacities.queueCapacity := by
  have hp : ∀ d w : UInt64, 0 < d → 0 < if w = 0 then d else w := by
    intro d w hd
    split
    · exact hd
    · rename_i hw
      exact UInt64.pos_iff_ne_zero.mpr hw
  exact ⟨hp 100 _ (by decide), hp 16 _ (by decide)⟩

theorem withCapacities_of_pos {s : Settings} (hb : 0 < s.bufferCapacity)
    (hq : 0 < s.queueCapacity) : s.withCapacities = s := by
  have hb := UInt64.pos_iff_ne_zero.mp hb
  have hq := UInt64.pos_iff_ne_zero.mp hq
  rw [withCapacities, if_neg hb, if_neg hq]

end Settings

namespace SettingsStore

theorem load_pos (s : SettingsStore) : 0 < s.load.bufferCapacity ∧ 0 < s.load.queueCapacity :=
  Settings.withCapacities_pos _

theorem map_load_save (s : SettingsStore) (settings : Settings) :
    (s.save settings).map load =
      if s.blocked then .error .directoryBlocked else .ok settings.withCapacities := by
  rw [save]
  split
  · rfl
  · rename_i hb
    rw [Except.map, load, if_neg hb, settings.ofFile_toFile]

/-- What is saved is loaded again, with default capacities in the place of zeros; what was loaded is
saved and loaded unchanged; and capacities that are loaded are never zero. -/
theorem load_save (s : SettingsStore) (settings : Settings) :
    ((s.save settings).map load =
      if s.blocked then .error .directoryBlocked
      else .ok { settings with
        bufferCapacity :=
          if settings.bufferCapacity = 0 then ({} : Settings).bufferCapacity
          else settings.bufferCapacity
        queueCapacity :=
          if settings.queueCapacity = 0 then ({} : Settings).queueCapacity
          else settings.queueCapacity }) ∧
    ((s.save s.load).map load =
      if s.blocked then .error .directoryBlocked else .ok s.load) ∧
    0 < s.load.bufferCapacity ∧ 0 < s.load.queueCapacity := by
  obtain ⟨hb, hq⟩ := s.load_pos
  have hl := s.map_load_save s.load
  rw [Settings.withCapacities_of_pos hb hq] at hl
  exact ⟨s.map_load_save settings, hl, hb, hq⟩

end SettingsStore

end ScreenAgent
