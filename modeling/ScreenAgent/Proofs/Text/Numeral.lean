import Mathlib.Algebra.Group.Nat.Defs
import Mathlib.Data.Nat.Init
import ScreenAgent.Proofs.Text.Search
import ScreenAgent.Text.Integer

namespace ScreenAgent.Text

theorem digit?_digitChar (d : Nat) (h : d < 10) : digit? d.digitChar = some d := by
  revert h
  revert d
  decide

theorem hexDigit?_digitChar (d : Nat) (h : d < 16) : hexDigit? d.digitChar = some d := by
  revert h
  revert d
  decide

theorem mapM_toDigits {base : Nat} (hb : 1 < base) {value? : Char → Option Nat}
    (hv : ∀ d < base, value? d.digitChar = some d) (n : Nat) :
    ∃ ds, (Nat.toDigits base n).mapM value? = some ds ∧ spelled base 0 ds = n := by
  induction n using Nat.strongRecOn with
  | _ n ih =>
    by_cases hn : n < base
    · refine ⟨[n], ?_, by simp [spelled]⟩
      simp [Nat.toDigits_of_lt_base hn, hv n hn]
    · obtain ⟨ds, hd, hs⟩ := ih (n / base) (Nat.div_lt_self (by omega) hb)
      have hl := hv (n % base) (Nat.mod_lt n (by omega))
      refine ⟨ds ++ [n % base], ?_, ?_⟩
      · rw [Nat.toDigits_of_base_le hb (Nat.le_of_not_lt hn), List.mapM_append, hd]
        simp [hl]
      · have hs : List.foldl (fun n d => n * base + d) 0 ds = n / base := hs
        simp only [spelled, List.foldl_append, hs, List.foldl_cons, List.foldl_nil]
        exact Nat.div_add_mod' n base

theorem mapM_zeros {value? : Char → Option Nat} (hz : value? '0' = some 0) (zeros : Nat)
    (s : List Char) :
    (List.replicate zeros '0' ++ s).mapM value? =
      (s.mapM value?).map (List.replicate zeros 0 ++ ·) := by
  induction zeros with
  | zero => simp
  | succ zeros ih =>
    rw [List.replicate_succ, List.cons_append, List.mapM_cons, hz, ih]
    cases s.mapM value? <;> rfl

theorem spelled_zeros (base zeros : Nat) (ds : List Nat) :
    spelled base 0 (List.replicate zeros 0 ++ ds) = spelled base 0 ds := by
  induction zeros with
  | zero => rfl
  | succ zeros ih => simpa [spelled, List.replicate_succ] using ih

theorem spelled_toDigits {base : Nat} (hb : 1 < base) {value? : Char → Option Nat}
    (hv : ∀ d < base, value? d.digitChar = some d) (zeros n : Nat) :
    ((List.replicate zeros '0' ++ Nat.toDigits base n).mapM value?).map (spelled base 0) =
      some n := by
  obtain ⟨ds, hd, hs⟩ := mapM_toDigits hb hv n
  rw [mapM_zeros (hv 0 (by omega)), hd]
  simp only [Option.map_some, spelled_zeros, hs]

theorem decimal?_ofNat (zeros n : Nat) :
    decimal? (List.replicate zeros '0' ++ ofNat n) = some n := by
  have hn : List.replicate zeros '0' ++ ofNat n ≠ [] := by
    simp [ofNat, Nat.toDigits_ne_nil]
  rw [decimal?, if_neg hn]
  exact spelled_toDigits (by decide) digit?_digitChar zeros n

theorem ofNat_injective {m n : Nat} (h : ofNat m = ofNat n) : m = n := by
  have hm := decimal?_ofNat 0 m
  have hn := decimal?_ofNat 0 n
  rw [h] at hm
  exact Option.some.inj (hm.symm.trans hn)

theorem hexDigit?_toLower (c : Char) : hexDigit? c.toLower = hexDigit? c := by
  by_cases hc : c.toNat < 128
  · have hs : ∀ n < 128, hexDigit? (Char.ofNat n).toLower = hexDigit? (Char.ofNat n) := by decide
    simpa using hs c.toNat hc
  · rw [toLower_of_le (Nat.not_lt.mp hc)]

theorem hexadecimal?_eq {digits : List Char} {zeros n : Nat}
    (h : digits.map Char.toLower = List.replicate zeros '0' ++ hexOfNat n) :
    hexadecimal? digits = some n := by
  have hn : digits ≠ [] := by
    rintro rfl
    simp [hexOfNat, Nat.toDigits_ne_nil] at h
  have hc : hexDigit? ∘ Char.toLower = hexDigit? := funext hexDigit?_toLower
  have hs : digits.mapM hexDigit? = (digits.map Char.toLower).mapM hexDigit? := by
    rw [List.mapM_map, hc]
  rw [hexadecimal?, if_neg hn, hs, h]
  exact spelled_toDigits (by decide) hexDigit?_digitChar zeros n

theorem isSome_of_mapM {value? : Char → Option Nat} {s : List Char} {ds : List Nat}
    (h : s.mapM value? = some ds) : ∀ c ∈ s, (value? c).isSome = true := by
  induction s generalizing ds with
  | nil => simp
  | cons c s ih =>
    rw [List.mapM_cons] at h
    cases hc : value? c with
    | none => simp [hc] at h
    | some d =>
      cases hs : s.mapM value? with
      | none => simp [hc, hs] at h
      | some ds => simpa [hc] using ih hs

theorem isSome_of_hexadecimal? {digits : List Char} {n : Nat} (h : hexadecimal? digits = some n) :
    ∀ c ∈ digits, (hexDigit? c).isSome = true := by
  rw [hexadecimal?] at h
  split at h
  · cases h
  · obtain ⟨ds, hd, -⟩ := Option.map_eq_some_iff.mp h
    exact isSome_of_mapM hd

theorem isDigit_of_mem_ofNat {n : Nat} {c : Char} (h : c ∈ ofNat n) : c.isDigit = true :=
  Nat.isDigit_of_mem_toDigits (by decide) (by decide) h

theorem head?_ofNat_ne {n : Nat} {c : Char} (hc : c.isDigit = false) : (ofNat n).head? ≠ some c := by
  intro h
  have hd := isDigit_of_mem_ofNat (List.mem_of_mem_head? h)
  rw [hc] at hd
  cases hd

theorem integer?_of_unsigned (low high : Int) {s : List Char} (hm : s.head? ≠ some '-')
    (hp : s.head? ≠ some '+') :
    integer? low high s = ((decimal? s).map Int.ofNat).filter fun z => low ≤ z ∧ z ≤ high := by
  simp only [integer?]
  split <;> simp_all

theorem integer?_ofInt {low high z : Int} (hl : low ≤ z) (hh : z ≤ high) :
    integer? low high (ofInt z) = some z := by
  have hd : decimal? (ofNat z.natAbs) = some z.natAbs := decimal?_ofNat 0 z.natAbs
  rw [ofInt]
  split
  · have hz : -(z.natAbs : Int) = z := by omega
    simp only [integer?, hd]
    change (some (-(z.natAbs : Int))).filter _ = some z
    rw [hz]
    simp [hl, hh]
  · have hz : (z.natAbs : Int) = z := by omega
    have hm : (ofNat z.natAbs).head? ≠ some '-' := head?_ofNat_ne (by decide)
    have hp : (ofNat z.natAbs).head? ≠ some '+' := head?_ofNat_ne (by decide)
    rw [integer?_of_unsigned low high hm hp, hd, Option.map_some, Int.ofNat_eq_natCast, hz]
    simp [hl, hh]

theorem isDigit_eq (c : Char) : isDigit c = c.isDigit := by
  have hc : ('0' ≤ c ∧ c ≤ '9') ↔ c.isDigit = true := by
    simp [Char.isDigit, Char.le_def]
  unfold isDigit digit?
  split
  · rename_i h
    simp [hc.mp h]
  · rename_i h
    simpa using mt hc.mpr h

theorem isDigit_ofNat (n : Nat) : ∀ c ∈ ofNat n, isDigit c = true := by
  intro c hc
  rw [isDigit_eq]
  exact isDigit_of_mem_ofNat hc

theorem ofNat_ne_nil (n : Nat) : ofNat n ≠ [] := Nat.toDigits_ne_nil

theorem eq_zero_of_head?_ofNat {n : Nat} (h : (ofNat n).head? = some '0') : n = 0 := by
  induction n using Nat.strongRecOn with
  | _ n ih =>
    by_cases hn : n < 10
    · have hs : ∀ m < 10, (ofNat m).head? = some '0' → m = 0 := by decide
      exact hs n hn h
    · have hd : 10 ≤ n := Nat.le_of_not_lt hn
      rw [ofNat, Nat.toDigits_of_base_le (by decide) hd, List.head?_append] at h
      cases hf : (Nat.toDigits 10 (n / 10)).head? with
      | none => exact absurd (List.head?_eq_none_iff.mp hf) Nat.toDigits_ne_nil
      | some c =>
        rw [hf] at h
        have hz := ih (n / 10) (Nat.div_lt_self (by omega) (by decide)) (hf.trans h)
        omega

theorem padded_eq (width n : Nat) :
    padded width n = List.replicate (width - (ofNat n).length) '0' ++ ofNat n := rfl

theorem decimal?_padded (width n : Nat) : decimal? (padded width n) = some n := by
  rw [padded_eq]
  exact decimal?_ofNat _ n

theorem isDigit_padded (width n : Nat) : ∀ c ∈ padded width n, isDigit c = true := by
  intro c hc
  rw [padded_eq, List.mem_append] at hc
  obtain hz | hn := hc
  · rw [List.eq_of_mem_replicate hz]
    decide
  · exact isDigit_ofNat n c hn

theorem length_padded {width n : Nat} (hw : 0 < width) (hn : n < 10 ^ width) :
    (padded width n).length = width := by
  have hl : (ofNat n).length ≤ width := (Nat.length_toDigits_le_iff (by decide) hw).mpr hn
  simp only [padded_eq, List.length_append, List.length_replicate]
  omega

section

variable {base : Nat} {value? : Char → Option Nat} {form : Char → Char}

/-- Digits behind those of a number other than zero are the last digits of a number. -/
theorem toDigits_append (hb : 1 < base)
    (hv : ∀ c d, value? c = some d → d < base ∧ form c = d.digitChar) {start : Nat}
    (hs : 0 < start) {digits : List Char} {ds : List Nat} (h : digits.mapM value? = some ds) :
    Nat.toDigits base start ++ digits.map form = Nat.toDigits base (spelled base start ds) := by
  induction digits generalizing start ds with
  | nil =>
    obtain rfl : [] = ds := by simpa using h
    simp [spelled]
  | cons c digits ih =>
    obtain ⟨d, hc, ds', hr, rfl⟩ : ∃ d, value? c = some d ∧
        ∃ ds', digits.mapM value? = some ds' ∧ d :: ds' = ds := by
      simpa [List.mapM_cons, Option.bind_eq_some_iff] using h
    obtain ⟨hd, hf⟩ := hv c d hc
    have hlast := Nat.toDigits_append_toDigits hb hs hd
    rw [Nat.toDigits_of_lt_base hd, Nat.mul_comm] at hlast
    have hpos : 0 < start * base + d := by
      have hm := Nat.mul_pos hs (Nat.lt_trans Nat.one_pos hb)
      omega
    calc Nat.toDigits base start ++ (c :: digits).map form
        = (Nat.toDigits base start ++ [d.digitChar]) ++ digits.map form := by simp [hf]
      _ = Nat.toDigits base (start * base + d) ++ digits.map form := by rw [hlast]
      _ = Nat.toDigits base (spelled base start (d :: ds')) := ih hpos hr

/-- Digits are those of the number that they spell, with zeros in front. -/
theorem exists_zeros (hb : 1 < base)
    (hv : ∀ c d, value? c = some d → d < base ∧ form c = d.digitChar) {digits : List Char}
    (hn : digits ≠ []) {ds : List Nat} (h : digits.mapM value? = some ds) :
    ∃ zeros, digits.map form =
      List.replicate zeros '0' ++ Nat.toDigits base (spelled base 0 ds) := by
  induction digits generalizing ds with
  | nil => exact absurd rfl hn
  | cons c digits ih =>
    obtain ⟨d, hc, ds', hr, rfl⟩ : ∃ d, value? c = some d ∧
        ∃ ds', digits.mapM value? = some ds' ∧ d :: ds' = ds := by
      simpa [List.mapM_cons, Option.bind_eq_some_iff] using h
    obtain ⟨hd, hf⟩ := hv c d hc
    have hstart : spelled base 0 (d :: ds') = spelled base d ds' := by simp [spelled]
    obtain rfl | hpos := Nat.eq_zero_or_pos d
    · have hzero : form c = '0' := hf
      cases digits with
      | nil =>
        obtain rfl : [] = ds' := by simpa using hr
        exact ⟨0, by simp [spelled, hzero]⟩
      | cons e digits =>
        obtain ⟨zeros, hz⟩ := ih (List.cons_ne_nil e digits) hr
        exact ⟨zeros + 1, by rw [List.map_cons, hz, hstart, hzero]; rfl⟩
    · have happ := toDigits_append hb hv hpos hr
      rw [Nat.toDigits_of_lt_base hd, ← hf] at happ
      exact ⟨0, by rw [hstart, ← happ]; rfl⟩

end

theorem digit?_eq_some {c : Char} {d : Nat} (h : digit? c = some d) : d < 10 ∧ c = d.digitChar := by
  rw [digit?] at h
  split at h
  · rename_i hc
    obtain rfl := Option.some.inj h
    have hl : 48 ≤ c.toNat := hc.1
    have hu : c.toNat ≤ 57 := hc.2
    refine ⟨by omega, Char.toNat_inj.mp ?_⟩
    rw [Nat.toNat_digitChar_of_lt_ten (by omega)]
    omega
  · cases h

theorem hexDigit?_eq_some {c : Char} {d : Nat} (h : hexDigit? c = some d) :
    d < 16 ∧ c.toLower = d.digitChar := by
  have hc : c.toNat < 128 := by
    rw [hexDigit?] at h
    refine Nat.lt_of_not_le fun hc => ?_
    have hn : ∀ u : Char, u.toNat < 128 → ¬ c ≤ u := fun u hu hle =>
      Nat.not_lt.mpr hc (Nat.lt_of_le_of_lt hle hu)
    simp [hn '9' (by decide), hn 'f' (by decide), hn 'F' (by decide)] at h
  have hs : ∀ n < 128, ∀ d ∈ hexDigit? (Char.ofNat n),
      d < 16 ∧ (Char.ofNat n).toLower = d.digitChar := by decide
  simpa using hs c.toNat hc d (by simpa using h)

theorem decimal?_eq_some_iff {digits : List Char} {n : Nat} :
    decimal? digits = some n ↔ ∃ zeros, digits = List.replicate zeros '0' ++ ofNat n := by
  refine ⟨fun h => ?_, fun ⟨zeros, h⟩ => h ▸ decimal?_ofNat zeros n⟩
  rw [decimal?] at h
  split at h
  · cases h
  · rename_i hn
    obtain ⟨ds, hd, rfl⟩ := Option.map_eq_some_iff.mp h
    have hv : ∀ c d, digit? c = some d → d < 10 ∧ id c = d.digitChar := fun c d => digit?_eq_some
    have hz := exists_zeros (by decide) hv hn hd
    rwa [List.map_id] at hz

theorem hexadecimal?_eq_some_iff {digits : List Char} {n : Nat} :
    hexadecimal? digits = some n ↔
      ∃ zeros, digits.map Char.toLower = List.replicate zeros '0' ++ hexOfNat n := by
  refine ⟨fun h => ?_, fun ⟨zeros, h⟩ => hexadecimal?_eq h⟩
  rw [hexadecimal?] at h
  split at h
  · cases h
  · rename_i hn
    obtain ⟨ds, hd, rfl⟩ := Option.map_eq_some_iff.mp h
    exact exists_zeros (by decide) (fun c d => hexDigit?_eq_some) hn hd

end ScreenAgent.Text
