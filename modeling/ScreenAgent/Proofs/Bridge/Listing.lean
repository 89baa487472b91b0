import Mathlib.Data.List.Nodup
import ScreenAgent.Bridge.Command
import ScreenAgent.Proofs.Text.Words

namespace ScreenAgent

structure DeviceRecord where
  serial : String
  status : String
  usb : Option String := none
  product : Option String := none
  model : Option String := none
  device : Option String := none
  transport : Option String := none

namespace DeviceRecord

def qualifiers (r : DeviceRecord) : List (String × Option String) :=
  [("usb:", r.usb), ("product:", r.product), ("model:", r.model), ("device:", r.device),
    ("transport_id:", r.transport)]

def qualifierWords (r : DeviceRecord) : List (List Char) :=
  r.qualifiers.filterMap fun q => q.2.map fun value => q.1.toList ++ value.toList

/-- A line with the serial number, the status and the qualifiers in any order. White space may be of any
kind and length. -/
def IsLine (r : DeviceRecord) (line : List Char) : Prop :=
  ∃ qs, qs.Perm r.qualifierWords ∧
    Text.Spaced (r.serial.toList :: r.status.toList :: qs) line ∧ '\n' ∉ line

def entry (r : DeviceRecord) : DeviceInfo where
  id := r.serial
  status := r.status
  attachment :=
    if ':' ∈ r.serial.toList then .remote else if r.usb.isSome then .usb else .wifi
  model := r.model

/-- The status is not taken for a port, or it does not matter. -/
def ShowsAttachment (r : DeviceRecord) : Prop :=
  "usb:".toList <+: r.status.toList → ':' ∈ r.serial.toList ∨ r.usb.isSome = true

def LikeModel (s : String) : Prop := "model:".toList <+: s.toList

instance : DecidablePred LikeModel := fun _ => inferInstanceAs (Decidable (_ <+: _))

/-- What is left of a text that begins as the qualifier of the model does, perhaps more than once. -/
def Behind (s model : String) : Prop :=
  ¬ LikeModel model ∧
    ∃ k, s.toList = (List.replicate k "model:".toList).flatten ++ model.toList

/-- Neither the serial number nor the status nor the model begins as the qualifier of the model does. Or
else the first of serial number and status that does so tells the same. -/
def ShowsModel (r : DeviceRecord) : Prop :=
  (¬ LikeModel r.serial ∧ ¬ LikeModel r.status ∧ ∀ m ∈ r.model, ¬ LikeModel m) ∨
    ∃ s m, [r.serial, r.status].find? (LikeModel ·) = some s ∧ r.model = some m ∧ Behind s m

end DeviceRecord

/-- The lines behind the title: one for each device in order, and blank ones. A line feed begins each. -/
inductive Listing : (rs : List DeviceRecord) → (s : List Char) → Prop
  | nil : Listing [] []
  | blank {rs : List DeviceRecord} {blanks s : List Char}
      (hb : ∀ c ∈ blanks, Text.isBlank c = true) (hn : '\n' ∉ blanks) (h : Listing rs s) :
      Listing rs ('\n' :: (blanks ++ s))
  | device {r : DeviceRecord} {rs : List DeviceRecord} {line s : List Char} (hl : r.IsLine line)
      (h : Listing rs s) : Listing (r :: rs) ('\n' :: (line ++ s))

namespace DeviceInfo

theorem go_replicate {start m : List Char} (hm : ¬ start <+: m) {k n : Nat} (hk : k ≤ n) :
    withoutStart.go start n ((List.replicate k start).flatten ++ m) = m := by
  induction k generalizing n with
  | zero =>
    cases n with
    | zero => rfl
    | succ n => simpa [withoutStart.go] using fun h => absurd h hm
  | succ k ih =>
    obtain ⟨n, rfl⟩ : ∃ j, n = j + 1 := ⟨n - 1, by omega⟩
    have hr : (List.replicate (k + 1) start).flatten ++ m =
        start ++ ((List.replicate k start).flatten ++ m) := by
      simp [List.replicate_succ]
    rw [hr, withoutStart.go, if_pos (List.isPrefixOf_iff_prefix.mpr (List.prefix_append _ _)),
      List.drop_left]
    exact ih (by omega)

theorem exists_replicate {start : List Char} (hs : start ≠ []) (s : List Char) :
    ∃ k m, s = (List.replicate k start).flatten ++ m ∧ ¬ start <+: m := by
  induction hl : s.length using Nat.strongRecOn generalizing s with
  | _ n ih =>
    subst hl
    by_cases h : start <+: s
    · obtain ⟨r, rfl⟩ := h
      have hpos := List.length_pos_iff.mpr hs
      obtain ⟨k, m, hr, hm⟩ := ih _ (by simp only [List.length_append]; omega) r rfl
      exact ⟨k + 1, m, by simp [List.replicate_succ, hr], hm⟩
    · exact ⟨0, s, rfl, h⟩

/-- The start is taken away as often as it is there. -/
theorem withoutStart_eq_iff {start s m : List Char} (hs : start ≠ []) :
    withoutStart start s = m ↔ ¬ start <+: m ∧ ∃ k, s = (List.replicate k start).flatten ++ m := by
  have hread : ∀ k m, ¬ start <+: m →
      withoutStart start ((List.replicate k start).flatten ++ m) = m := by
    intro k m hm
    refine go_replicate hm ?_
    have hpos := List.length_pos_iff.mpr hs
    have hk := Nat.le_mul_of_pos_right k hpos
    simp only [List.length_append, List.length_flatten, List.map_replicate,
      List.sum_replicate_nat]
    omega
  constructor
  · rintro rfl
    obtain ⟨k, m, rfl, hm⟩ := exists_replicate hs s
    rw [hread k m hm]
    exact ⟨hm, k, rfl⟩
  · rintro ⟨hm, k, rfl⟩
    exact hread k m hm

end DeviceInfo

namespace DeviceRecord

variable {r : DeviceRecord}

theorem behind_iff {s m : String} :
    Behind s m ↔ String.ofList (DeviceInfo.withoutStart "model:".toList s.toList) = m := by
  rw [← String.toList_inj, String.toList_ofList, DeviceInfo.withoutStart_eq_iff (by decide)]
  rfl

theorem mem_qualifierWords {w : List Char} : w ∈ r.qualifierWords ↔
    ∃ q ∈ r.qualifiers, ∃ value, q.2 = some value ∧ q.1.toList ++ value.toList = w := by
  simp only [qualifierWords, List.mem_filterMap, Option.map_eq_some_iff]

theorem qualifier_unique {a b : String × Option String} (ha : a ∈ r.qualifiers) (hb : b ∈ r.qualifiers)
    (h : a.1.toList <+: b.1.toList) : a = b := by
  have hkeys : r.qualifiers.map Prod.fst = ["usb:", "product:", "model:", "device:", "transport_id:"] :=
    rfl
  have hn : (r.qualifiers.map Prod.fst).Nodup := by
    rw [hkeys]
    decide
  have hp : ∀ x ∈ r.qualifiers.map Prod.fst, ∀ y ∈ r.qualifiers.map Prod.fst,
      x.toList <+: y.toList → x = y := by
    rw [hkeys]
    decide
  have hab := hp _ (List.mem_map_of_mem ha) _ (List.mem_map_of_mem hb) h
  exact List.inj_on_of_nodup_map hn ha hb hab

/-- A word that begins as a qualifier does is that qualifier. -/
theorem prefix_qualifierWord_iff {name : String} {v : Option String}
    (h : (name, v) ∈ r.qualifiers) {w : List Char} :
    w ∈ r.qualifierWords ∧ name.toList <+: w ↔
      ∃ value, v = some value ∧ name.toList ++ value.toList = w := by
  constructor
  · rintro ⟨hw, hp⟩
    obtain ⟨⟨other, v'⟩, hq, value, hv, rfl⟩ := mem_qualifierWords.mp hw
    have hsame : (name, v) = (other, v') := by
      obtain hno | hon := List.prefix_or_prefix_of_prefix hp (List.prefix_append _ _)
      · exact qualifier_unique h hq hno
      · exact (qualifier_unique hq h hon).symm
    cases hsame
    exact ⟨value, hv, rfl⟩
  · rintro ⟨value, rfl, rfl⟩
    exact ⟨mem_qualifierWords.mpr ⟨_, h, value, rfl, rfl⟩, List.prefix_append _ _⟩

theorem find?_qualifier {name : String} {v : Option String} (h : (name, v) ∈ r.qualifiers)
    {qs : List (List Char)} (hq : qs.Perm r.qualifierWords) :
    qs.find? name.toList.isPrefixOf = v.map fun value => name.toList ++ value.toList := by
  have hiff : ∀ w, w ∈ qs ∧ name.toList.isPrefixOf w = true ↔
      ∃ value, v = some value ∧ name.toList ++ value.toList = w := by
    intro w
    rw [hq.mem_iff, List.isPrefixOf_iff_prefix]
    exact prefix_qualifierWord_iff h
  cases v with
  | none =>
    refine List.find?_eq_none.mpr fun w hw hp => ?_
    obtain ⟨value, hv, -⟩ := (hiff w).mp ⟨hw, hp⟩
    cases hv
  | some value =>
    obtain ⟨hmem, hp⟩ := (hiff _).mpr ⟨value, rfl, rfl⟩
    obtain ⟨w, hw⟩ := Option.isSome_iff_exists.mp (List.find?_isSome.mpr ⟨_, hmem, hp⟩)
    obtain ⟨_, hv, rfl⟩ := (hiff w).mp ⟨List.mem_of_find?_eq_some hw, List.find?_some hw⟩
    cases hv
    exact hw

/-- What is made of a line. The status may be taken for a port, and the first word that begins as the
qualifier of the model does is taken for it. -/
def listed (r : DeviceRecord) : DeviceInfo where
  id := r.serial
  status := r.status
  attachment :=
    if ':' ∈ r.serial.toList then .remote
    else if "usb:".toList <+: r.status.toList ∨ r.usb.isSome = true then .usb else .wifi
  model := (([r.serial, r.status].find? (LikeModel ·)).or (r.model.map ("model:" ++ ·))).map fun s =>
    String.ofList (DeviceInfo.withoutStart "model:".toList s.toList)

theorem IsLine.newline_not_mem {line : List Char} (h : r.IsLine line) : '\n' ∉ line := by
  obtain ⟨-, -, -, hn⟩ := h
  exact hn

section

variable {qs : List (List Char)}

theorem any_port_iff (hq : qs.Perm r.qualifierWords) (hc : ':' ∉ r.serial.toList) :
    (r.serial.toList :: r.status.toList :: qs).any "usb:".toList.isPrefixOf = true ↔
      "usb:".toList <+: r.status.toList ∨ r.usb.isSome = true := by
  have hqualifier : ("usb:", r.usb) ∈ r.qualifiers := by simp [qualifiers]
  have husb := find?_qualifier hqualifier hq
  have hserial : ¬ "usb:".toList <+: r.serial.toList := fun hp => hc (hp.subset (by decide))
  have hany : qs.any "usb:".toList.isPrefixOf = r.usb.isSome := by
    rw [Bool.eq_iff_iff, List.any_eq_true, ← List.find?_isSome, husb, Option.isSome_map]
  simp only [List.any_cons, Bool.or_eq_true, hany, List.isPrefixOf_iff_prefix, hserial, false_or]

theorem find?_model (hq : qs.Perm r.qualifierWords) :
    (r.serial.toList :: r.status.toList :: qs).find? "model:".toList.isPrefixOf =
      (([r.serial, r.status].find? (LikeModel ·)).or (r.model.map ("model:" ++ ·))).map
        String.toList := by
  have hqualifier : ("model:", r.model) ∈ r.qualifiers := by simp [qualifiers]
  have hmodel := find?_qualifier hqualifier hq
  have hlike : "model:".toList.isPrefixOf ∘ String.toList = fun s => decide (LikeModel s) := by
    funext s
    rw [Bool.eq_iff_iff, decide_eq_true_eq]
    exact List.isPrefixOf_iff_prefix
  have htwo : r.serial.toList :: r.status.toList :: qs =
      [r.serial, r.status].map String.toList ++ qs := rfl
  have hword : (fun value : String => "model:".toList ++ value.toList) =
      String.toList ∘ ("model:" ++ ·) := by
    funext value
    exact (String.toList_append ..).symm
  rw [htwo, List.find?_append, List.find?_map, hlike, hmodel, hword, ← Option.map_map,
    ← Option.map_or]

theorem IsLine.ofLine?_eq {line : List Char} (h : r.IsLine line) :
    DeviceInfo.ofLine? line = some r.listed := by
  obtain ⟨qs, hq, hs, -⟩ := h
  have hmodel := find?_model hq
  rw [DeviceInfo.ofLine?, hs.words_eq]
  simp only [listed, String.ofList_toList, hmodel, Option.map_map, List.contains_iff_mem]
  by_cases hc : ':' ∈ r.serial.toList
  · simp only [if_pos hc]
    rfl
  · simp only [if_neg hc, if_congr (any_port_iff hq hc) rfl rfl]
    rfl

end

/-- The port is told as it is unless the status is taken for one. -/
theorem listed_attachment_iff : r.listed.attachment = r.entry.attachment ↔ r.ShowsAttachment := by
  by_cases hc : ':' ∈ r.serial.toList
  · simp [listed, entry, ShowsAttachment, hc]
  · by_cases hu : r.usb.isSome = true <;> simp [listed, entry, ShowsAttachment, hc, hu]

/-- The model is told as it is unless it begins like its qualifier or another word is taken for it. -/
theorem listed_model_iff : r.listed.model = r.entry.model ↔ r.ShowsModel := by
  have hentry : r.entry.model = r.model := rfl
  rw [hentry, listed, ShowsModel]
  cases hf : [r.serial, r.status].find? (LikeModel ·) with
  | some s =>
    have hs : LikeModel s := by simpa using List.find?_some hf
    have hmem : s = r.serial ∨ s = r.status := by simpa using List.mem_of_find?_eq_some hf
    constructor
    · intro h
      exact .inr ⟨s, _, rfl, h.symm, behind_iff.mpr rfl⟩
    · rintro (⟨hserial, hstatus, -⟩ | ⟨_, m, hsame, hm, hb⟩)
      · obtain rfl | rfl := hmem
        · exact absurd hs hserial
        · exact absurd hs hstatus
      · cases hsame
        rw [hm, ← behind_iff.mp hb]
        rfl
  | none =>
    have hnone : ¬ LikeModel r.serial ∧ ¬ LikeModel r.status := by
      simpa using List.find?_eq_none.mp hf
    cases hm : r.model with
    | none => simp [hnone]
    | some m =>
      have hone : Behind ("model:" ++ m) m ↔ ¬ LikeModel m :=
        ⟨And.left, fun h => ⟨h, 1, by simp⟩⟩
      rw [Option.none_or, Option.map_some, Option.map_some, Option.some_inj, ← behind_iff, hone]
      simp [hnone]

end DeviceRecord

namespace DeviceInfo

theorem ofLine?_blanks {blanks : List Char} (hb : ∀ c ∈ blanks, Text.isBlank c = true) :
    ofLine? blanks = none := by
  rw [ofLine?, (Text.Spaced.blanks blanks hb).words_eq]

theorem ofLine?_dropReturn (line : List Char) : ofLine? (Text.dropReturn line) = ofLine? line := by
  simp only [ofLine?, Text.words_dropReturn]

theorem filterMap_lines {rs : List DeviceRecord} {line s : List Char} (hl : '\n' ∉ line)
    (h : Listing rs s) : (Text.lines (line ++ s)).filterMap ofLine? =
      (ofLine? line).toList ++ rs.map DeviceRecord.listed := by
  induction h generalizing line with
  | nil =>
    rw [List.append_nil, List.map_nil, List.append_nil, Text.lines_open hl]
    split
    · rename_i hempty
      rw [hempty]
      rfl
    · rw [List.filterMap_cons]
      cases ofLine? line <;> rfl
  | blank hb hn _ ih =>
    rw [Text.lines_cut hl, List.filterMap_cons, ih hn, ofLine?_blanks hb, ofLine?_dropReturn]
    cases ofLine? line <;> rfl
  | device hd _ ih =>
    rw [Text.lines_cut hl, List.filterMap_cons, ih hd.newline_not_mem, hd.ofLine?_eq,
      ofLine?_dropReturn]
    cases ofLine? line <;> rfl

/-- The title is no device, whatever it says. -/
theorem ofOutput_eq {rs : List DeviceRecord} {title s : List Char} (ht : '\n' ∉ title)
    (h : Listing rs s) : ofOutput (title ++ s) = rs.map DeviceRecord.listed := by
  cases h with
  | nil =>
    rw [ofOutput, List.append_nil, Text.lines_open ht]
    split <;> rfl
  | blank hb hn h =>
    have hr := filterMap_lines hn h
    rw [ofLine?_blanks hb] at hr
    rw [ofOutput, Text.lines_cut ht]
    exact hr
  | device hd h =>
    have hr := filterMap_lines hd.newline_not_mem h
    rw [hd.ofLine?_eq] at hr
    rw [ofOutput, Text.lines_cut ht]
    exact hr

/-- Each record of a list is read as one device, in order, with its serial number and its status. How the
device is attached is told as it is unless its status begins as the qualifier of the port does, and the
model is told as it is unless it begins as its own qualifier does, or the serial number or the status
does so and does not tell the same. -/
theorem lists_records {rs : List DeviceRecord} {title s : List Char} (htitle : '\n' ∉ title)
    (hlisting : Listing rs s) :
    List.Forall₂ (fun (r : DeviceRecord) d => d.id = r.serial ∧ d.status = r.status ∧
      (d.attachment = r.entry.attachment ↔ r.ShowsAttachment) ∧
      (d.model = r.entry.model ↔ r.ShowsModel)) rs (ofOutput (title ++ s)) := by
  rw [ofOutput_eq htitle hlisting, List.forall₂_map_right_iff, List.forall₂_same]
  intro r _
  exact ⟨rfl, rfl, r.listed_attachment_iff, r.listed_model_iff⟩

/-- Two devices with blanks of all sorts between what is told of them, and blank lines. -/
theorem lists_records_blanks :
    let phone : DeviceRecord :=
      { serial := "0a17", status := "device", usb := some "1-4", model := some "Pixel_7" }
    let remote : DeviceRecord := { serial := "model-c:5555", status := "offline" }
    let title := "List of devices attached".toList
    let first := "\t0a17  device\u00a0model:Pixel_7 usb:1-4 \r".toList
    let second := "model-c:5555 offline".toList
    let s := '\n' :: '\n' :: first ++ '\n' :: second ++ ['\n']
    '\n' ∉ title ∧ Listing [phone, remote] s ∧ ofOutput (title ++ s) = [phone.entry, remote.entry] := by
  intro phone remote title first second s
  have hphone : phone.IsLine first :=
    ⟨["model:Pixel_7".toList, "usb:1-4".toList], by decide, Text.spaced_iff.mpr (by decide), by decide⟩
  have hremote : remote.IsLine second :=
    ⟨[], by decide, Text.spaced_iff.mpr (by decide), by decide⟩
  have hlisting : Listing [phone, remote] s := by
    have hlines : Listing [phone, remote] ('\n' :: ([] ++ '\n' :: (first ++ '\n' :: (second ++
        '\n' :: ([] ++ []))))) :=
      .blank nofun (by decide) (.device hphone (.device hremote (.blank nofun (by decide) .nil)))
    simpa only [s, List.nil_append, List.append_nil, List.cons_append, List.append_assoc] using hlines
  have htitle : '\n' ∉ title := by decide
  refine ⟨htitle, hlisting, ?_⟩
  have hread := lists_records htitle hlisting
  generalize ofOutput (title ++ s) = ds at hread ⊢
  obtain _ | ⟨⟨hid, hstatus, hport, hmodel⟩, _ | ⟨⟨hid', hstatus', hport', hmodel'⟩, _ | _⟩⟩ := hread
  have hplain : phone.ShowsAttachment ∧ phone.ShowsModel :=
    ⟨fun _ => .inr rfl, .inl ⟨by decide, by decide, by decide⟩⟩
  have hplain' : remote.ShowsAttachment ∧ remote.ShowsModel :=
    ⟨fun _ => .inl (by decide), .inl ⟨by decide, by decide, by decide⟩⟩
  have hentry : ∀ (r : DeviceRecord) (d : DeviceInfo), d.id = r.serial → d.status = r.status →
      d.attachment = r.entry.attachment → d.model = r.entry.model → d = r.entry := by
    rintro r ⟨⟩ rfl rfl rfl rfl
    rfl
  rw [hentry phone _ hid hstatus (hport.mpr hplain.1) (hmodel.mpr hplain.2),
    hentry remote _ hid' hstatus' (hport'.mpr hplain'.1) (hmodel'.mpr hplain'.2)]

/-- A device may be reached under the name `model`, and then its number is taken for its model. -/
theorem model_mistaken :
    let r : DeviceRecord := { serial := "model:5555", status := "device", model := some "Pixel_7" }
    let title := "List of devices attached".toList
    let s := '\n' :: "model:5555 device model:Pixel_7".toList
    '\n' ∉ title ∧ Listing [r] s ∧ ofOutput (title ++ s) ≠ [r.entry] ∧
      ofOutput (title ++ s) = [{ r.entry with model := some "5555" }] := by
  intro r title s
  have hline : r.IsLine "model:5555 device model:Pixel_7".toList :=
    ⟨["model:Pixel_7".toList], by decide, Text.spaced_iff.mpr (by decide), by decide⟩
  have hlisting : Listing [r] s := by
    have hlines := Listing.device hline .nil
    rwa [List.append_nil] at hlines
  have htitle : '\n' ∉ title := by decide
  have hread : ofOutput (title ++ s) = [{ r.entry with model := some "5555" }] := by
    rw [ofOutput_eq htitle hlisting]
    decide
  refine ⟨htitle, hlisting, ?_, hread⟩
  rw [hread]
  decide

end DeviceInfo

end ScreenAgent
