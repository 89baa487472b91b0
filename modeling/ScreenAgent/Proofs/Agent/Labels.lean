import Mathlib.Data.Nat.Find
import ScreenAgent.Proofs.Agent.Decision
import ScreenAgent.Proofs.Goal.Reading
import ScreenAgent.Proofs.Text.LetterCase

namespace ScreenAgent

def Snapshot.IsFirst (s : Snapshot) (kind : Element → Prop) (i : Nat) (e : Element) : Prop :=
  s.elements[i]? = some e ∧ kind e ∧ ∀ (j : Nat) d, j < i → s.elements[j]? = some d → ¬ kind d

/-- An action clicks the first element of a kind, by a reference that points at it, and does nothing
exactly if there is none. -/
structure Action.ClicksFirst (a : Action) (s : Snapshot) (kind : Element → Prop) : Prop where
  rests_iff : a = .noOp ↔ ∀ e ∈ s.elements, ¬ kind e
  clicks : ∀ i e, s.IsFirst kind i e →
    ∃ target, s.refAt? i = some target ∧ s.resolve? target = some (i, e) ∧ a = .click target

namespace Element

/-- An element can be clicked and reads like a text, in whatever case, white space around either set
aside. -/
def ReadsLike (e : Element) (text : String) : Prop :=
  e.clickable = true ∧
    Text.lowered (Text.trim e.text.toList) = Text.lowered (Text.trim text.toList)

/-- An element reads like a text with all letters beyond ASCII in the case in which they are written. -/
def KeepsCase (e : Element) (text : String) : Prop :=
  Text.SameBeyondAscii (Text.trim e.text.toList) (Text.trim text.toList)

instance (e : Element) (text : String) : Decidable (e.ReadsLike text) :=
  inferInstanceAs (Decidable (_ ∧ _))

instance (e : Element) (text : String) : Decidable (e.KeepsCase text) :=
  inferInstanceAs (Decidable (Text.SameBeyondAscii _ _))

/-- Two elements are the same but for the case of letters of ASCII in their texts. -/
def Recased (d e : Element) : Prop :=
  Text.Recased d.text.toList e.text.toList ∧ e = { d with text := e.text }

def button (text : String) : Element := ⟨none, text, "Button", default, true, false⟩

end Element

/-- What a fresh policy decides that has one step to do. -/
def Step.choice (step : Step) (s : Snapshot) : Action := (RulePolicy.ofGoal ⟨[step]⟩).decide s

variable {s s' : Snapshot} {a : Action} {kind wider : Element → Prop}

theorem Snapshot.exists_isFirst {e : Element} (he : e ∈ s.elements) (hk : kind e) :
    ∃ i d, s.IsFirst kind i d := by
  classical
  have hex : ∃ i : Nat, ∃ d, s.elements[i]? = some d ∧ kind d := by
    obtain ⟨i, hi⟩ := List.mem_iff_getElem?.mp he
    exact ⟨i, e, hi, hk⟩
  obtain ⟨d, hd, hkd⟩ := Nat.find_spec hex
  exact ⟨Nat.find hex, d, hd, hkd, fun j c hj hc hkc => Nat.find_min hex hj ⟨c, hc, hkc⟩⟩

/-- The first of a kind is the first of a wider kind exactly if that one is of the kind too. -/
theorem Action.ClicksFirst.wider_iff (h : a.ClicksFirst s kind) (hw : ∀ e, kind e → wider e) :
    a.ClicksFirst s wider ↔ ∀ i e, s.IsFirst wider i e → kind e := by
  constructor
  · intro hwide i e he
    obtain ⟨target, -, hr, rfl⟩ := hwide.clicks i e he
    -- What is clicked is of the kind, or else there would be nothing to click.
    have hsome : ∃ d ∈ s.elements, kind d := by
      by_contra hn
      exact nomatch h.rests_iff.mpr fun d hd hk => hn ⟨d, hd, hk⟩
    obtain ⟨d, hd, hk⟩ := hsome
    obtain ⟨j, c, hj⟩ := Snapshot.exists_isFirst hd hk
    obtain ⟨target', -, hr', hsame⟩ := h.clicks j c hj
    obtain rfl : target = target' := Action.click.inj hsame
    obtain ⟨rfl, rfl⟩ : i = j ∧ e = c := Prod.mk.inj (Option.some.inj (hr.symm.trans hr'))
    exact hj.2.1
  · intro hfirst
    refine ⟨⟨fun hn e he hk => ?_, fun hn => h.rests_iff.mpr fun e he hk => hn e he (hw e hk)⟩, ?_⟩
    · obtain ⟨i, d, hd⟩ := Snapshot.exists_isFirst he hk
      exact h.rests_iff.mp hn d (List.mem_of_getElem? hd.1) (hfirst i d hd)
    · intro i e he
      exact h.clicks i e ⟨he.1, hfirst i e he, fun j d hj hd hk => he.2.2 j d hj hd (hw d hk)⟩

theorem Snapshot.IsFirst.findIdx?_eq {p : Element → Bool} {i : Nat} {e : Element}
    (h : s.IsFirst (fun e => p e = true) i e) : s.elements.findIdx? p = some i := by
  obtain ⟨he, hp, hbefore⟩ := h
  obtain ⟨hl, rfl⟩ := List.getElem?_eq_some_iff.mp he
  refine List.findIdx?_eq_some_iff_getElem.mpr ⟨hl, hp, fun j hj => ?_⟩
  exact hbefore j _ hj (List.getElem?_eq_getElem (hj.trans hl))

namespace Step

variable {text text' : String} {step : Step}

theorem choice_clicksFirst (hi : step.intent = .click) :
    (step.choice s).ClicksFirst s (fun e => step.accepts e = true) := by
  have hstep : (RulePolicy.ofGoal ⟨[step]⟩).step? = some step := rfl
  have hon : ∀ target, step.actionOn target = .click target := by simp [actionOn, hi]
  refine ⟨⟨fun hn e he => ?_, fun hn => ?_⟩, fun i e he => ?_⟩
  · obtain ⟨-, hnone⟩ | ⟨step', _, _, target, -, -, -, -, hd⟩ :=
      (RulePolicy.ofGoal ⟨[step]⟩).decide_cases s
    · exact Bool.eq_false_iff.mp (hnone step hstep e he)
    · exact absurd (hd.symm.trans hn) (step'.actionOn_ne_noOp target)
  · have hnone : s.elements.findIdx? step.accepts = none :=
      List.findIdx?_eq_none_iff.mpr fun e he => Bool.eq_false_iff.mpr (hn e he)
    simp [choice, RulePolicy.decide, hstep, hnone]
  · obtain ⟨target, ht, hr⟩ := s.resolve?_refAt? i e he.1
    exact ⟨target, ht, hr, (RulePolicy.decide_refAt? hstep he.findIdx?_eq ht).trans (hon target)⟩

theorem read_clickText (ht : text ≠ "") :
    read ("click-text:" ++ text) = .ok ⟨.byText text, .click⟩ := by
  have hw : Writable ⟨.byText text, .click⟩ := ht
  obtain ⟨form, hform, hread⟩ := hw.read_written
  obtain rfl : "click-text:" ++ text = form := Option.some.inj hform
  exact hread

theorem accepts_clickText {e : Element} :
    accepts ⟨.byText text, .click⟩ e = true ↔ e.ReadsLike text ∧ e.KeepsCase text := by
  simp only [accepts, isCapable, Target.isMatch, Bool.and_eq_true, Text.sameAsciiCase_iff,
    Text.Recased, Element.ReadsLike, Element.KeepsCase, and_assoc]

theorem accepts_recased {d e : Element} (ht : Text.Recased text.toList text'.toList)
    (he : d.Recased e) :
    accepts ⟨.byText text, .click⟩ d = accepts ⟨.byText text', .click⟩ e := by
  obtain ⟨hr, he⟩ := he
  have htext := Text.asciiLower_eq_iff.mpr ht
  have hread := Text.asciiLower_eq_iff.mpr hr
  have hclick : e.clickable = d.clickable := by rw [he]
  simp only [accepts, isCapable, Target.isMatch, Text.sameAsciiCase, ← Text.trim_asciiLower, htext,
    hread, hclick]

end Step

theorem findIdx?_congr {α β : Type} {p : α → Bool} {q : β → Bool} {l : List α} {m : List β}
    (h : List.Forall₂ (fun x y => p x = q y) l m) : l.findIdx? p = m.findIdx? q := by
  induction h with
  | nil => rfl
  | cons hxy _ ih => rw [List.findIdx?_cons, List.findIdx?_cons, hxy, ih]

theorem Step.choice_congr {step step' : Step} (hi : step'.intent = step.intent)
    (h : List.Forall₂ (fun d e => step.accepts d = step'.accepts e ∧
      d.identifier = e.identifier ∧ d.elementClass = e.elementClass) s.elements s'.elements) :
    step'.choice s' = step.choice s := by
  have hfind := findIdx?_congr (h.imp fun _ _ => And.left)
  have htags : s.elements.map (fun e => (e.identifier, e.elementClass)) =
      s'.elements.map fun e => (e.identifier, e.elementClass) := by
    rw [← List.forall₂_eq_eq_eq, List.forall₂_map_left_iff, List.forall₂_map_right_iff]
    exact h.imp fun d e hde => by rw [hde.2.1, hde.2.2]
  have href : s.refAt? = s'.refAt? := funext (Snapshot.refAt?_congr htags)
  simp only [choice, RulePolicy.decide, RulePolicy.step?, RulePolicy.ofGoal,
    List.getElem?_cons_zero, hfind, href, hi]

namespace RulePolicy

/-- A step that names a text is read from `click-text:` and the text. A fresh policy that has it to do
clicks the first element that can be clicked and reads like the text, with all letters beyond ASCII in the
case in which they are written, and does nothing exactly if there is none. That is the first element that
reads like the text in any case exactly if that one has its letters beyond ASCII in the same case. The
choice stays the same whatever letters of ASCII change their case, in the text and on the screen. -/
theorem clicks_first_text {text : String} (ht : text ≠ "") (s : Snapshot) :
    ∃ step, Step.read ("click-text:" ++ text) = .ok step ∧
      (step.choice s).ClicksFirst s (fun e => e.ReadsLike text ∧ e.KeepsCase text) ∧
      ((step.choice s).ClicksFirst s (fun e => e.ReadsLike text) ↔
        ∀ i e, s.IsFirst (fun e => e.ReadsLike text) i e → e.KeepsCase text) ∧
      ∀ text' s', Text.Recased text.toList text'.toList →
        List.Forall₂ Element.Recased s.elements s'.elements →
        ∃ step', Step.read ("click-text:" ++ text') = .ok step' ∧ step'.choice s' = step.choice s := by
  have hclick : Step.intent ⟨.byText text, .click⟩ = .click := rfl
  have hfirst := Step.choice_clicksFirst (s := s) hclick
  simp only [Step.accepts_clickText] at hfirst
  refine ⟨_, Step.read_clickText ht, hfirst, ?_, ?_⟩
  · rw [hfirst.wider_iff fun e he => he.1]
    exact forall₃_congr fun i e he => and_iff_right he.2.1
  · intro text' s' hr hs
    have ht' : text' ≠ "" := by
      rintro rfl
      have hnil : Text.SameBeyondAscii text.toList [] := hr.2
      exact ht (String.toList_eq_nil_iff.mp (List.forall₂_nil_right_iff.mp hnil))
    refine ⟨_, Step.read_clickText ht', Step.choice_congr rfl (hs.imp fun d e hde => ?_)⟩
    refine ⟨Step.accepts_recased hr hde, ?_⟩
    rw [hde.2]
    exact ⟨rfl, rfl⟩

/-- Neither a longer text nor white space and small letters mislead a step that names `GO`. -/
theorem clicks_first_text_go : "GO" ≠ "" ∧
    ∃ step, Step.read ("click-text:" ++ "GO") = .ok step ∧
      step.choice ⟨[.button "Go on", .button " Go "]⟩ = .click (.byPosition 1 "Button") := by
  have hgo : "GO" ≠ "" := by decide
  obtain ⟨step, hread, hfirst, -, -⟩ :=
    clicks_first_text hgo ⟨[.button "Go on", .button " Go "]⟩
  refine ⟨hgo, step, hread, ?_⟩
  have hlonger : ¬ (Element.button "Go on").ReadsLike "GO" := by decide
  have hreads : (Element.button " Go ").ReadsLike "GO" ∧ (Element.button " Go ").KeepsCase "GO" := by
    decide
  obtain ⟨target, ht, -, hc⟩ := hfirst.clicks 1 (.button " Go ") ⟨rfl, hreads, fun j d hj hd hk => by
    obtain rfl : j = 0 := by omega
    obtain rfl : Element.button "Go on" = d := Option.some.inj hd
    exact hlonger hk.1⟩
  obtain rfl : Ref.byPosition 1 "Button" = target := Option.some.inj ht
  exact hc

/-- A button that reads like the text is passed over, since a letter beyond ASCII is in another case; with
this letter in the case of the button, the same text has it clicked. -/
theorem case_mistaken :
    let s : Snapshot := ⟨[.button "café"]⟩
    (Element.button "café").ReadsLike "CAFÉ" ∧
    (∃ step, Step.read ("click-text:" ++ "CAFÉ") = .ok step ∧ step.choice s = .noOp) ∧
    ∃ step, Step.read ("click-text:" ++ "CAFé") = .ok step ∧
      step.choice s = .click (.byPosition 0 "Button") := by
  refine ⟨by decide, ?_, ?_⟩
  · exact ⟨_, Step.read_clickText (by decide), by decide⟩
  · exact ⟨_, Step.read_clickText (by decide), by decide⟩

end RulePolicy

end ScreenAgent
