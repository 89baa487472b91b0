import ScreenAgent.Learning.Reward
import ScreenAgent.Proofs.Screen.Encoding
import ScreenAgent.Proofs.Text.Timestamp
import ScreenAgent.Proofs.Text.Uuid

namespace ScreenAgent

namespace Action

/-- Actions whose reference has a number that fits 64 bits. -/
def Sized (a : Action) : Prop := ∀ target ∈ a.target?, target.Sized

instance (a : Action) : Decidable a.Sized := by
  unfold Sized
  infer_instance

theorem proper_toJson (a : Action) : a.toJson.Proper := by
  cases a <;> exact .object (by simp [Json.Proper.text, Json.proper_nat, Ref.proper_toJson])

theorem ofJson?_toJson {a : Action} (h : a.Sized) (levels : Nat) :
    ofJson? (levels + 2) a.toJson = some a := by
  cases a with
  | click target =>
    have hs : target.Sized := h target rfl
    have ht : (click target).toJson.tagged? "type" ["click", "set_text", "scroll", "wait", "no_op"]
        false (levels + 2) = some ("click", _) :=
      Json.tagged?_ofMembers (by simp [Ref.sound_toJson hs]) (by simp) (by simp)
    have hr : (Json.ofMembers [("target", target.toJson)]).record? ["target"] = some ⟨false, _⟩ :=
      Json.record?_ofMembers (by simp) (by simp)
    simp [ofJson?, ht, hr, Json.Record.required, Ref.ofJson?_toJson hs]
  | setText target text =>
    have hs : target.Sized := h target rfl
    have ht : (setText target text).toJson.tagged? "type"
        ["click", "set_text", "scroll", "wait", "no_op"] false (levels + 2) = some ("set_text", _) :=
      Json.tagged?_ofMembers (by simp [Ref.sound_toJson hs, Json.sound_text]) (by simp) (by simp)
    have hr : (Json.ofMembers [("target", target.toJson), ("text", .text text)]).record?
        ["target", "text"] = some ⟨false, _⟩ := Json.record?_ofMembers (by simp) (by simp)
    simp [ofJson?, ht, hr, Json.Record.required, Ref.ofJson?_toJson hs]
  | scroll direction =>
    have ht : (scroll direction).toJson.tagged? "type"
        ["click", "set_text", "scroll", "wait", "no_op"] false (levels + 2) = some ("scroll", _) :=
      Json.tagged?_ofMembers (by simp [Json.sound_text]) (by simp) (by simp)
    have hr : (Json.ofMembers [("direction", .text direction.name)]).record? ["direction"] =
        some ⟨false, _⟩ := Json.record?_ofMembers (by simp) (by simp)
    have hd : Direction.ofJson? true (levels + 2) (.text direction.name) = some direction := by
      cases direction <;> rfl
    simp [ofJson?, ht, hr, Json.Record.required, hd]
  | wait milliseconds =>
    have hm : milliseconds.toNat < 18446744073709551616 := milliseconds.toNat_lt
    have ht : (wait milliseconds).toJson.tagged? "type"
        ["click", "set_text", "scroll", "wait", "no_op"] false (levels + 2) = some ("wait", _) :=
      Json.tagged?_ofMembers (by simp [Json.sound_nat hm]) (by simp) (by simp)
    have hr : (Json.ofMembers [("duration_ms", .nat milliseconds.toNat)]).record? ["duration_ms"] =
        some ⟨false, _⟩ := Json.record?_ofMembers (by simp) (by simp)
    simp [ofJson?, ht, hr, Json.Record.required, Json.word?_nat hm]
  | noOp =>
    have ht : noOp.toJson.tagged? "type" ["click", "set_text", "scroll", "wait", "no_op"] false
        (levels + 2) = some ("no_op", _) :=
      Json.tagged?_ofMembers (by simp) (by simp) (by simp)
    simp [ofJson?, ht, Json.ofMembers]

end Action

namespace Outcome

theorem proper_toJson (o : Outcome) : o.toJson.Proper := by
  obtain ⟨succeeded, errorKind, message⟩ := o
  have hk : (Json.ofOption (fun k : ErrorKind => .text k.name) errorKind).Proper :=
    Json.proper_ofOption (fun k => .text k.name) errorKind
  apply Json.Proper.object
  cases message <;> simp [Json.Proper.bool, Json.Proper.text, hk]

theorem ofJson?_toJson (o : Outcome) (levels : Nat) : ofJson? (levels + 1) o.toJson = some o := by
  obtain ⟨succeeded, errorKind, message⟩ := o
  have hk : Json.nullable (ErrorKind.ofJson? levels)
      (Json.ofOption (fun k => .text k.name) errorKind) = some errorKind :=
    Json.nullable_ofOption (by simp [Json.text]) (fun k => by cases k <;> rfl) _
  cases message with
  | none =>
    have hr : (Outcome.mk succeeded errorKind none).toJson.record?
        ["succeeded", "error_kind", "message"] = some ⟨false, _⟩ :=
      Json.record?_ofMembers (by simp) (by simp)
    simp [ofJson?, hr, Json.Record.required, Json.Record.optional, Json.Record.defaulted, hk]
  | some message =>
    have hr : (Outcome.mk succeeded errorKind (some message)).toJson.record?
        ["succeeded", "error_kind", "message"] = some ⟨false, _⟩ :=
      Json.record?_ofMembers (by simp) (by simp)
    have hm : Json.nullable Json.text? (.text message) = some (some message) := rfl
    simp [ofJson?, hr, Json.Record.required, Json.Record.optional, Json.Record.defaulted, hk, hm]

end Outcome

namespace Experience

theorem proper_toJson {e : Experience} (hf : e.reward.isFinite = true)
    (hs : (Numeral.ofFloat e.reward).Proper) : e.toJson.Proper := by
  apply Json.Proper.object
  simp [Json.Proper.text, e.snapshot.proper_toJson, e.action.proper_toJson, e.outcome.proper_toJson,
    hf, Json.Proper.number hs]

theorem ofJson?_toJson {e : Experience} (ha : e.action.Sized) (hf : e.reward.isFinite = true)
    (hx : (Numeral.ofFloat e.reward).toFloat? = some e.reward) (levels : Nat) :
    ofJson? (levels + 5) e.toJson = some e := by
  have hr : e.toJson.record? ["id", "snapshot", "action", "outcome", "timestamp", "reward"] =
      some ⟨false, _⟩ := Json.record?_ofMembers (by simp) (by simp)
  simp [ofJson?, hr, Json.Record.required, Json.Record.defaulted, Uuid.ofText?_toText,
    Snapshot.ofJson?_toJson, Action.ofJson?_toJson ha (levels + 2),
    Outcome.ofJson?_toJson, Timestamp.ofText?_toText, hf, Json.real?, hx]

end Experience

namespace ShapedReward

def rewards : List Float := [0.5, 1.0, 0.3, 0.1, 0.05, -0.5, -1.0]

theorem score_mem (s : Snapshot) (a : Action) (o : Outcome) : score s a o ∈ rewards := by
  unfold score
  split
  · cases a with
    | setText target text =>
      dsimp only
      cases isUnchanged s target text <;> simp [rewards]
    | click | scroll | wait | noOp => simp [rewards]
  · split <;> simp [rewards]

theorem rewards_exact : ∀ r ∈ rewards, (Numeral.ofFloat r).Proper ∧
    (Numeral.ofFloat r).toFloat? = some r := by
  decide +kernel

end ShapedReward

end ScreenAgent
