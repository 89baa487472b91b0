import Mathlib.Data.List.TakeWhile
import ScreenAgent.Hierarchy.Attribute
import ScreenAgent.Proofs.Hierarchy.Spelling
import ScreenAgent.Proofs.Hierarchy.Token
import ScreenAgent.Proofs.Text.Search
import ScreenAgent.Proofs.Unicode.Blank

namespace ScreenAgent.Hierarchy

inductive Quote
  | double
  | single
deriving DecidableEq

def Quote.char : Quote → Char
  | double => '"'
  | single => '\''

/-- The texts of a value together with its quotes. -/
def Quoted (quote : Quote) (value text : List Char) : Prop :=
  ∃ inner, Spelling quote.char value inner ∧ text = quote.char :: (inner ++ [quote.char])

/-- Texts of a value that leave the rest of a tag as it is: in single quotes there are no double ones
and no closing angle brackets. -/
def Tame (quote : Quote) (value text : List Char) : Prop :=
  Quoted quote value text ∧ (quote = .single → '"' ∉ text ∧ '>' ∉ text)

def IsName (name : List Char) : Prop := name ≠ [] ∧ name.all isNameChar = true

instance (name : List Char) : Decidable (IsName name) :=
  inferInstanceAs (Decidable (name ≠ [] ∧ name.all isNameChar = true))

theorem IsName.isNameChar {name : List Char} (h : IsName name) {c : Char} (hc : c ∈ name) :
    isNameChar c = true := List.all_eq_true.mp h.2 c hc

/-- The texts of names and values, when it is known how the value of each name may be written. -/
inductive Fields (writes : String → List Char → List Char → Prop) :
    List (String × String) → List Char → Prop
  | nil : Fields writes [] []
  | cons {name value : String} {blanks text rest : List Char} {fs : List (String × String)}
      (hb : blanks ≠ [] ∧ ∀ c ∈ blanks, Text.isBlank c = true)
      (hw : writes name value.toList text) (h : Fields writes fs rest) :
      Fields writes ((name, value) :: fs) (blanks ++ (name.toList ++ '=' :: (text ++ rest)))

theorem space_blank : [' '] ≠ [] ∧ ∀ c ∈ [' '], Text.isBlank c = true :=
  ⟨by decide, List.forall_mem_singleton.mpr (by decide)⟩

theorem ne_of_class {inClass : Char → Bool} {c d : Char} (hc : inClass c = true)
    (hd : inClass d = false) : c ≠ d := by
  rintro rfl
  rw [hc] at hd
  cases hd

theorem isNameChar_of_isBlank {c : Char} (h : Text.isBlank c = true) : isNameChar c = false := by
  have hw := Unicode.isWord_of_isBlank h
  have hcolon : c ≠ ':' := ne_of_class h (by decide)
  have hminus : c ≠ '-' := ne_of_class h (by decide)
  simp [isNameChar, hw, hcolon, hminus]

theorem attributesFrom_eq (skip : Nat) (s : List Char) :
    attributesFrom skip s = attributes (s.drop skip) := by
  induction s generalizing skip with
  | nil => cases skip <;> rfl
  | cons c r ih =>
    cases skip with
    | zero => rfl
    | succ skip => simpa [attributesFrom] using ih skip

theorem attributes_cons_of_not {c : Char} (hc : isNameChar c = false) (s : List Char) :
    attributes (c :: s) = attributes s := by
  rw [attributes, attributesFrom, if_neg (by simp [hc])]
  rfl

theorem attributes_blanks {blanks : List Char} (hb : ∀ c ∈ blanks, isNameChar c = false)
    (s : List Char) : attributes (blanks ++ s) = attributes s := by
  induction blanks with
  | nil => rfl
  | cons c blanks ih =>
    rw [List.cons_append, attributes_cons_of_not (hb c List.mem_cons_self)]
    exact ih fun d hd => hb d (List.mem_cons_of_mem c hd)

/-- One step of the reading at a name, whatever follows it. -/
theorem attributes_name {name : List Char} (hn : IsName name) {s : List Char}
    (hs : s.head?.any isNameChar = false) :
    attributes (name ++ s) =
      match quotedValue? s with
      | some value => (name, value) :: attributes (s.drop (value.length + 3))
      | none => attributes s := by
  have hc : ∀ c ∈ name, isNameChar c = true := fun c => hn.isNameChar
  obtain ⟨c, r, rfl⟩ := List.exists_cons_of_ne_nil hn.1
  have ht : (c :: (r ++ s)).takeWhile isNameChar = c :: r := by
    have he : s.takeWhile isNameChar = [] := by
      cases s with
      | nil => rfl
      | cons d s => exact List.takeWhile_cons_of_neg (by simpa using hs)
    rw [← List.cons_append, List.takeWhile_append_of_pos hc, he, List.append_nil]
  have hd : (c :: (r ++ s)).drop (c :: r).length = s := by
    rw [← List.cons_append, List.drop_left]
  rw [attributes, List.cons_append, attributesFrom, if_pos (hc c List.mem_cons_self)]
  simp only [ht, hd, attributesFrom_eq]
  cases quotedValue? s with
  | none => simp
  | some value =>
    have hl : (c :: r).length + value.length + 2 = r.length + (value.length + 3) := by
      simp only [List.length_cons]
      omega
    have hs : (r ++ s).drop ((c :: r).length + value.length + 2) = s.drop (value.length + 3) := by
      rw [hl, ← List.drop_drop, List.drop_left]
    simp only [hs]

theorem quotedValue?_eq {value : List Char} (hv : '"' ∉ value) (s : List Char) :
    quotedValue? ('=' :: '"' :: (value ++ '"' :: s)) = some value := by
  have ht : (value ++ '"' :: s).takeWhile (· != '"') = value := by
    rw [List.takeWhile_append_of_pos]
    · simp
    · intro c hc
      simpa using ne_of_mem_of_not_mem hc hv
  simp [quotedValue?, ht]

theorem attributes_double {name value : List Char} (hn : IsName name) (hv : '"' ∉ value)
    (s : List Char) :
    attributes (name ++ '=' :: '"' :: (value ++ '"' :: s)) = (name, value) :: attributes s := by
  have hd : ('=' :: '"' :: (value ++ '"' :: s)).drop (value.length + 3) = s := by simp
  rw [attributes_name hn (by rfl), quotedValue?_eq hv]
  simp only [hd]

/-- Text without double quotes is passed over, if it is known to end before what follows. -/
theorem attributes_pass {before : List Char} (hb : '"' ∉ before) {c : Char}
    (hc : isNameChar c = false ∧ c ≠ '=' ∧ c ≠ '"') (s : List Char) :
    attributes (before ++ c :: s) = attributes s := by
  -- A name is passed over as a whole, so that any suffix of the text can be left.
  induction hl : before.length using Nat.strongRecOn generalizing before with
  | _ n ih =>
    subst hl
    cases before with
    | nil => exact attributes_cons_of_not hc.1 s
    | cons d r =>
      cases hd : isNameChar d with
      | false =>
        rw [List.cons_append, attributes_cons_of_not hd]
        exact ih r.length (by simp) (fun h => hb (List.mem_cons_of_mem d h)) rfl
      | true =>
        obtain ⟨name, rest, hr, hn, hrest⟩ : ∃ name rest, d :: r = name ++ rest ∧ IsName name ∧
            rest.head?.any isNameChar = false := by
          refine ⟨_, _, (List.takeWhile_append_dropWhile (p := isNameChar)).symm, ⟨?_, ?_⟩, ?_⟩
          · simp [hd]
          · exact List.all_takeWhile
          · have hh := List.head?_dropWhile_not isNameChar (d :: r)
            cases hx : ((d :: r).dropWhile isNameChar).head? with
            | none => rfl
            | some x => simpa [hx] using hh
        have hq : '"' ∉ rest := fun h => hb (by simp [hr, h])
        have hv : quotedValue? (rest ++ c :: s) = none := by
          match rest with
          | [] =>
            rw [List.nil_append, quotedValue?]
            rintro _ ⟨⟩
            exact hc.2.1 rfl
          | [x] =>
            rw [List.singleton_append, quotedValue?]
            rintro _ ⟨⟩
            exact hc.2.2 rfl
          | x :: y :: rest =>
            rw [List.cons_append, List.cons_append, quotedValue?]
            rintro _ ⟨⟩
            exact hq (by simp)
        have hh : (rest ++ c :: s).head?.any isNameChar = false := by
          cases rest with
          | nil => exact hc.1
          | cons x rest => exact hrest
        have hl : rest.length < (d :: r).length := by
          have hp := List.length_pos_iff.mpr hn.1
          rw [hr, List.length_append]
          omega
        rw [hr, List.append_assoc, attributes_name hn hh, hv]
        exact ih rest.length hl hq rfl

def readFields (s : List Char) : List (String × String) :=
  (attributes s).map fun a => (String.ofList a.1, String.ofList (unescape a.2))

/-- The last one of a name counts. -/
theorem value?_eq (s : List Char) (name : String) :
    value? (attributes s) name = ((readFields s).reverse.lookup name).map String.toList := by
  rw [value?, readFields, ← List.map_reverse]
  induction (attributes s).reverse with
  | nil => rfl
  | cons a as ih =>
    have hn : (name == String.ofList a.1) = (name.toList == a.1) := by
      rw [Bool.eq_iff_iff, beq_iff_eq, beq_iff_eq]
      constructor
      · rintro rfl
        exact String.toList_ofList
      · intro h
        rw [← h, String.ofList_toList]
    rw [List.lookup_cons, List.map_cons, List.lookup_cons, hn]
    cases name.toList == a.1 with
    | true => simp
    | false => exact ih

theorem Content.of_plain {s : List Char} (hs : ∀ c ∈ s, c ≠ '>' ∧ c ≠ '"') : Content s := by
  induction s with
  | nil => exact .nil
  | cons c s ih =>
    exact .plain (hs c List.mem_cons_self) (ih fun d hd => hs d (List.mem_cons_of_mem c hd))

theorem Content.of_blanks {s : List Char} (hs : ∀ c ∈ s, Text.isBlank c = true) : Content s :=
  .of_plain fun c hc =>
    ⟨ne_of_class (hs c hc) (by decide), ne_of_class (hs c hc) (by decide)⟩

theorem Content.of_isName {s : List Char} (hs : IsName s) : Content s :=
  .of_plain fun _ hc =>
    ⟨ne_of_class (hs.isNameChar hc) (by decide), ne_of_class (hs.isNameChar hc) (by decide)⟩

theorem Content.append {a b : List Char} (ha : Content a) (hb : Content b) : Content (a ++ b) := by
  induction ha with
  | nil => exact hb
  | plain hc _ ih => exact .plain hc ih
  | quoted hq _ ih => simpa using Content.quoted hq ih

namespace Quoted

variable {value text : List Char}

theorem of_raw {quote : Quote} (h : quote.char ∉ value ∧ '&' ∉ value) :
    Quoted quote value (quote.char :: (value ++ [quote.char])) :=
  ⟨value, .of_raw h, rfl⟩

theorem content (h : Quoted .double value text) : Content text := by
  obtain ⟨inner, hi, rfl⟩ := h
  exact .quoted (hi.quote_not_mem (by decide)) .nil

theorem attributes_double {name : List Char} (h : Quoted .double value text) (hn : IsName name)
    (s : List Char) :
    ∃ inner, unescape inner = value ∧
      attributes (name ++ '=' :: (text ++ s)) = (name, inner) :: attributes s := by
  obtain ⟨inner, hi, rfl⟩ := h
  refine ⟨inner, hi.unescape_eq, ?_⟩
  have hs := Hierarchy.attributes_double hn (hi.quote_not_mem (by decide)) s
  simpa [Quote.char] using hs

end Quoted

namespace Tame

variable {quote : Quote} {value text : List Char}

theorem content (h : Tame quote value text) : Content text := by
  cases quote with
  | double => exact h.1.content
  | single =>
    obtain ⟨hd, hg⟩ := h.2 rfl
    exact .of_plain fun c hc => ⟨ne_of_mem_of_not_mem hc hg, ne_of_mem_of_not_mem hc hd⟩

theorem attributes_single {name : List Char} (h : Tame .single value text) (hn : IsName name)
    (s : List Char) : attributes (name ++ '=' :: (text ++ s)) = attributes s := by
  obtain ⟨⟨inner, -, rfl⟩, ht⟩ := h
  have hq : '"' ∉ name ++ '=' :: '\'' :: inner := by
    have hi := (ht rfl).1
    have hc : '"' ∉ name := fun hc => ne_of_class (hn.isNameChar hc) (by decide) rfl
    simp only [Quote.char, List.mem_cons, List.mem_append, not_or] at hi ⊢
    exact ⟨hc, by decide, by decide, hi.2.1⟩
  have hp := attributes_pass hq (c := '\'') (by decide) s
  simpa [Quote.char] using hp

end Tame

namespace Fields

variable {quotes : String → Quote} {fs : List (String × String)} {s : List Char}

theorem mono {writes writes' : String → List Char → List Char → Prop}
    (hw : ∀ name value text, writes name value text → writes' name value text)
    (h : Fields writes fs s) : Fields writes' fs s := by
  induction h with
  | nil => exact .nil
  | cons hb ht _ ih => exact .cons hb (hw _ _ _ ht) ih

/-- Of what is written, the values in double quotes are read. -/
theorem readFields_eq (h : Fields (fun name => Tame (quotes name)) fs s)
    (hn : ∀ f ∈ fs, IsName f.1.toList) (rest : List Char) :
    readFields (s ++ rest) = fs.filter (fun f => quotes f.1 = .double) ++ readFields rest := by
  induction h with
  | nil => rfl
  | @cons name value blanks text s fs hb hw _ ih =>
    have hname := hn _ List.mem_cons_self
    have ih := ih fun f hf => hn f (List.mem_cons_of_mem _ hf)
    have hs : blanks ++ (name.toList ++ '=' :: (text ++ s)) ++ rest =
        blanks ++ (name.toList ++ '=' :: (text ++ (s ++ rest))) := by simp
    rw [hs, readFields, attributes_blanks fun c hc => isNameChar_of_isBlank (hb.2 c hc)]
    cases hq : quotes name with
    | double =>
      rw [hq] at hw
      obtain ⟨inner, hv, ha⟩ := hw.1.attributes_double hname (s ++ rest)
      rw [readFields] at ih
      simp [ha, hv, hq, ih]
    | single =>
      rw [hq] at hw
      rw [hw.attributes_single hname, ← readFields, ih]
      simp [hq]

theorem content (h : Fields (fun name => Tame (quotes name)) fs s)
    (hn : ∀ f ∈ fs, IsName f.1.toList) : Content s := by
  induction h with
  | nil => exact .nil
  | cons hb hw _ ih =>
    have hname := hn _ List.mem_cons_self
    have ih := ih fun f hf => hn f (List.mem_cons_of_mem _ hf)
    exact (Content.of_blanks hb.2).append
      ((Content.of_isName hname).append (.plain (by decide) (hw.content.append ih)))

theorem head?_blank (h : Fields (fun name => Tame (quotes name)) fs s) {c : Char}
    (hc : s.head? = some c) : Text.isBlank c = true := by
  cases h with
  | nil => cases hc
  | @cons name value blanks text s fs hb =>
    obtain ⟨b, blanks, rfl⟩ := List.exists_cons_of_ne_nil hb.1
    obtain rfl := Option.some.inj hc
    exact hb.2 _ List.mem_cons_self

theorem ends_with_quote (h : Fields (fun name => Tame (quotes name)) fs s) :
    s = [] ∨ ∃ before quote, s = before ++ [Quote.char quote] := by
  induction h with
  | nil => exact .inl rfl
  | @cons name value blanks text s fs hb hw _ ih =>
    right
    obtain rfl | ⟨before, quote, rfl⟩ := ih
    · obtain ⟨⟨inner, -, rfl⟩, -⟩ := hw
      exact ⟨blanks ++ (name.toList ++ '=' :: (quotes name).char :: inner), quotes name, by simp⟩
    · exact ⟨blanks ++ (name.toList ++ '=' :: (text ++ before)), quote, by simp⟩

end Fields

end ScreenAgent.Hierarchy
