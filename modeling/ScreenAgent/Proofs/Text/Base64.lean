import ScreenAgent.Text.Base64

namespace ScreenAgent.Text.Base64

theorem value?_letter : ∀ n < 64, value? (letter n) = some n := by decide

theorem letter_ne_pad : ∀ n < 64, letter n ≠ '=' := by decide

theorem letter_ne_nul : ∀ n < 64, letter n ≠ '\x00' := by decide

theorem sum_of_three (n : Nat) : n / 4096 * 4096 + n / 64 % 64 * 64 + n % 64 = n := by omega

theorem sum_of_four (n : Nat) :
    n / 262144 * 262144 + n / 4096 % 64 * 4096 + n / 64 % 64 * 64 + n % 64 = n := by omega

theorem ofNat_toNat (b : UInt8) {n : Nat} (h : n = b.toNat) : UInt8.ofNat n = b := by
  rw [h, UInt8.ofNat_toNat]

/-- Four letters are three bytes unless the last of them is padding. -/
theorem decode?_four {p q r s : Char} (hs : s ≠ '=') (t : List Char) :
    decode? (p :: q :: r :: s :: t) = (do
      let n := (← value? p) * 262144 + (← value? q) * 4096 + (← value? r) * 64 + (← value? s)
      return .ofNat (n / 65536) :: .ofNat (n / 256 % 256) :: .ofNat (n % 256) :: (← decode? t)) := by
  rw [decode?]
  · exact fun _ h _ => hs h
  · exact fun h _ => hs h

theorem decode?_three {p q r : Char} (hr : r ≠ '=') :
    decode? [p, q, r, '='] = (do
      let n := (← value? p) * 4096 + (← value? q) * 64 + (← value? r)
      if n % 4 = 0 then some [.ofNat (n / 1024), .ofNat (n / 4 % 256)] else none) := by
  rw [decode?]
  exact hr

theorem decode?_encode (bytes : List UInt8) : decode? (encode bytes) = some bytes := by
  induction bytes using encode.induct with
  | case1 a b c r ih =>
    rw [encode]
    generalize hn : a.toNat * 65536 + b.toNat * 256 + c.toNat = n
    have ha := a.toNat_lt
    have hb := b.toNat_lt
    have hc := c.toNat_lt
    have hp := value?_letter (n / 262144) (by omega)
    have hq := value?_letter (n / 4096 % 64) (by omega)
    have hr := value?_letter (n / 64 % 64) (by omega)
    have hs := value?_letter (n % 64) (by omega)
    rw [decode?_four (letter_ne_pad _ (Nat.mod_lt n (by decide)))]
    simp only [hp, hq, hr, hs, ih, Option.bind_eq_bind, Option.bind_some, Option.pure_def, sum_of_four]
    rw [ofNat_toNat a (by omega), ofNat_toNat b (by omega), ofNat_toNat c (by omega)]
  | case2 a b =>
    rw [encode]
    generalize hn : a.toNat * 1024 + b.toNat * 4 = n
    have ha := a.toNat_lt
    have hb := b.toNat_lt
    have hp := value?_letter (n / 4096) (by omega)
    have hq := value?_letter (n / 64 % 64) (by omega)
    have hr := value?_letter (n % 64) (by omega)
    rw [decode?_three (letter_ne_pad _ (Nat.mod_lt n (by decide)))]
    simp only [hp, hq, hr, Option.bind_eq_bind, Option.bind_some, sum_of_three]
    rw [if_pos (by omega), ofNat_toNat a (by omega), ofNat_toNat b (by omega)]
  | case3 a =>
    rw [encode]
    have ha := a.toNat_lt
    have hp := value?_letter (a.toNat / 4) (by omega)
    have hq := value?_letter (a.toNat % 4 * 16) (by omega)
    have hsum : a.toNat / 4 * 64 + a.toNat % 4 * 16 = a.toNat * 16 := by omega
    rw [decode?]
    simp only [hp, hq, Option.bind_eq_bind, Option.bind_some, hsum]
    rw [if_pos (by omega), ofNat_toNat a (by omega)]
  | case4 => rfl

theorem nul_not_mem_encode (bytes : List UInt8) : '\x00' ∉ encode bytes := by
  have hl {n : Nat} (h : n < 64) : '\x00' ≠ letter n := (letter_ne_nul n h).symm
  induction bytes using encode.induct with
  | case1 a b c r ih =>
    have ha := a.toNat_lt
    have hb := b.toNat_lt
    have hc := c.toNat_lt
    rw [encode]
    simp only [List.mem_cons, not_or]
    exact ⟨hl (by omega), hl (by omega), hl (by omega), hl (by omega), ih⟩
  | case2 a b =>
    have ha := a.toNat_lt
    have hb := b.toNat_lt
    rw [encode]
    simp only [List.mem_cons, not_or]
    exact ⟨hl (by omega), hl (by omega), hl (by omega), by decide, List.not_mem_nil⟩
  | case3 a =>
    have ha := a.toNat_lt
    rw [encode]
    simp only [List.mem_cons, not_or]
    exact ⟨hl (by omega), hl (by omega), by decide, by decide, List.not_mem_nil⟩
  | case4 => exact List.not_mem_nil

end ScreenAgent.Text.Base64
