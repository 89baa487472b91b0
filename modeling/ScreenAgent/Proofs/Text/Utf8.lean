import Mathlib.Algebra.Ring.Nat
import Mathlib.Tactic.SplitIfs
import ScreenAgent.Text.Utf8

namespace ScreenAgent.Text.Utf8

theorem toNat_ofNat {n : Nat} (h : n < 256) : (UInt8.ofNat n).toNat = n := by
  rw [UInt8.toNat_ofNat', Nat.mod_eq_of_lt h]

theorem lead?_two {v : Nat} (hl : 0x7f < v) (hh : v ≤ 0x7ff) :
    lead? (v / 64 % 32 + 0xc0) = some ⟨1, 0x80, 0xBF, v / 64⟩ := by
  have hb : v / 64 % 32 = v / 64 := by omega
  rw [hb, lead?, if_pos (by omega), Nat.add_sub_cancel]

theorem lead?_three {v : Nat} (hl : 0x7ff < v) (hh : v ≤ 0xffff) (hs : v < 0xd800 ∨ 0xdfff < v) :
    ∃ low high, lead? (v / 4096 % 16 + 0xe0) = some ⟨2, low, high, v / 4096⟩ ∧
      low ≤ v / 64 % 64 + 0x80 ∧ v / 64 % 64 + 0x80 ≤ high := by
  have hb : v / 4096 % 16 = v / 4096 := by omega
  rw [hb, lead?, if_neg (by omega)]
  by_cases h0 : v / 4096 + 0xe0 = 0xe0
  · rw [if_pos h0]
    exact ⟨_, _, by rw [show v / 4096 = 0 by omega], by omega, by omega⟩
  rw [if_neg h0]
  by_cases hd : v / 4096 + 0xe0 = 0xed
  · rw [if_pos hd]
    exact ⟨_, _, by rw [show v / 4096 = 0xd by omega], by omega, by omega⟩
  rw [if_neg hd, if_pos (by omega), Nat.add_sub_cancel]
  exact ⟨_, _, rfl, by omega, by omega⟩

theorem lead?_four {v : Nat} (hl : 0xffff < v) (hh : v < 0x110000) :
    ∃ low high, lead? (v / 262144 % 8 + 0xf0) = some ⟨3, low, high, v / 262144⟩ ∧
      low ≤ v / 4096 % 64 + 0x80 ∧ v / 4096 % 64 + 0x80 ≤ high := by
  have hb : v / 262144 % 8 = v / 262144 := by omega
  rw [hb, lead?, if_neg (by omega), if_neg (by omega), if_neg (by omega), if_neg (by omega)]
  by_cases h0 : v / 262144 + 0xf0 = 0xf0
  · rw [if_pos h0]
    exact ⟨_, _, by rw [show v / 262144 = 0 by omega], by omega, by omega⟩
  rw [if_neg h0]
  by_cases h3 : 0xf1 ≤ v / 262144 + 0xf0 ∧ v / 262144 + 0xf0 ≤ 0xf3
  · rw [if_pos h3, Nat.add_sub_cancel]
    exact ⟨_, _, rfl, by omega, by omega⟩
  rw [if_neg h3, if_pos (by omega)]
  exact ⟨_, _, by rw [show v / 262144 = 4 by omega], by omega, by omega⟩

theorem read_byte (state : State) {b : Nat} (hb : b < 256) (r : List UInt8) :
    read state (UInt8.ofNat b :: r) = (step state b).1 ++ read (step state b).2 r := by
  rw [read, toNat_ofNat hb]

theorem read_lead {b following low high bits : Nat} (hb : b < 256) (hs : 0x80 ≤ b)
    (hl : lead? b = some ⟨following, low, high, bits⟩) (r : List UInt8) :
    read .start (UInt8.ofNat b :: r) = read (.inside following low high bits) r := by
  have hn : ¬ b < 0x80 := by omega
  rw [read_byte .start hb, step, begin, if_neg hn, hl]
  rfl

-- `u` is what the lowest bit of the byte counts.
theorem read_carry {v low high following u : Nat} (hl : low ≤ v / u % 64 + 0x80)
    (hh : v / u % 64 + 0x80 ≤ high) (r : List UInt8) :
    read (.inside (following + 2) low high (v / (u * 64)))
        (UInt8.ofNat (v / u % 64 + 0x80) :: r) =
      read (.inside (following + 1) 0x80 0xBF (v / u)) r := by
  have hb : v / u % 64 + 0x80 < 256 := by omega
  have hq : v / (u * 64) * 64 + v / u % 64 = v / u := by
    rw [← Nat.div_div_eq_div_mul]
    omega
  have hf : ¬ following + 2 ≤ 1 := by omega
  rw [read_byte _ hb, step, if_pos ⟨hl, hh⟩, if_neg hf, Nat.add_sub_cancel, hq]
  rfl

theorem read_last {v low high : Nat} (hl : low ≤ v % 64 + 0x80) (hh : v % 64 + 0x80 ≤ high)
    (r : List UInt8) :
    read (.inside 1 low high (v / 64)) (UInt8.ofNat (v % 64 + 0x80) :: r) =
      some (Char.ofNat v) :: read .start r := by
  have hb : v % 64 + 0x80 < 256 := by omega
  have hq : v / 64 * 64 + v % 64 = v := by omega
  rw [read_byte _ hb, step, if_pos ⟨hl, hh⟩, if_pos (by decide), Nat.add_sub_cancel, hq]
  rfl

theorem read_char (c : Char) (r : List UInt8) :
    read .start (String.utf8EncodeChar c ++ r) = some c :: read .start r := by
  have hc : Char.ofNat c.val.toNat = c := Char.ofNat_toNat c
  have hv : c.val.toNat < 0xd800 ∨ 0xdfff < c.val.toNat ∧ c.val.toNat < 0x110000 := c.valid
  unfold String.utf8EncodeChar
  generalize c.val.toNat = v at hc hv
  subst hc
  dsimp only
  -- one byte, two, three or four; the first byte is read first, and the last six bits last
  by_cases h1 : v ≤ 0x7f
  · have hb : v < 0x80 := by omega
    rw [if_pos h1, List.singleton_append, read_byte .start (by omega), step, begin, if_pos hb]
    rfl
  rw [if_neg h1]
  by_cases h2 : v ≤ 0x7ff
  · rw [if_pos h2, List.cons_append, List.singleton_append,
      read_lead (by omega) (by omega) (lead?_two (by omega) h2)]
    exact read_last (by omega) (by omega) r
  rw [if_neg h2]
  by_cases h3 : v ≤ 0xffff
  · obtain ⟨low, high, hl, hlow, hhigh⟩ := lead?_three (by omega) h3 (by omega)
    rw [if_pos h3, List.cons_append, List.cons_append, List.singleton_append,
      read_lead (by omega) (by omega) hl]
    refine (read_carry (u := 64) hlow hhigh _).trans ?_
    exact read_last (by omega) (by omega) r
  · obtain ⟨low, high, hl, hlow, hhigh⟩ := lead?_four (v := v) (by omega) (by omega)
    rw [if_neg h3, List.cons_append, List.cons_append, List.cons_append, List.singleton_append,
      read_lead (by omega) (by omega) hl]
    refine (read_carry (u := 4096) hlow hhigh _).trans ?_
    refine (read_carry (u := 64) (by omega) (by omega) _).trans ?_
    exact read_last (by omega) (by omega) r

theorem decode?_encode (s : List Char) : decode? (encode s) = some s := by
  have hr : read .start (encode s) = s.map some := by
    induction s with
    | nil => rfl
    | cons c s ih => rw [encode, List.flatMap_cons, read_char, ← encode, ih, List.map_cons]
  rw [decode?, hr, List.mapM_map]
  exact (List.mapM_pure (m := Option) (f := id)).trans (by simp)

theorem eq_map_some {out : List (Option Char)} {s : List Char} (h : out.mapM id = some s) :
    out = s.map some := by
  induction out generalizing s with
  | nil =>
    obtain rfl : [] = s := by simpa using h
    rfl
  | cons c out ih =>
    rw [List.mapM_cons] at h
    obtain ⟨d, hd, h⟩ := Option.bind_eq_some_iff.mp h
    obtain ⟨r, hr, h⟩ := Option.bind_eq_some_iff.mp h
    obtain rfl := Option.some.inj h
    rw [List.map_cons, ← ih hr, show c = some d from hd]

/-- Where all of a byte sequence can be read, no character is left unfinished at its end. -/
theorem read_append {state : State} {x : List UInt8} (h : none ∉ read state x) (y : List UInt8) :
    read state (x ++ y) = read state x ++ read .start y := by
  induction x generalizing state with
  | nil =>
    cases state with
    | start => rfl
    | inside following low high bits => simp [read] at h
  | cons b x ih =>
    rw [read, List.mem_append, not_or] at h
    rw [List.cons_append, read, read]
    dsimp only
    rw [ih h.2, List.append_assoc]

theorem decode?_append {x : List UInt8} {s : List Char} (h : decode? x = some s) (y : List UInt8) :
    decode? (x ++ y) = (decode? y).map (s ++ ·) := by
  have hx : read .start x = s.map some := eq_map_some h
  have hs : (s.map some).mapM id = some s := by rwa [← hx]
  rw [decode?, read_append (by simp [hx]), hx, List.mapM_append, hs, decode?]
  cases (read .start y).mapM id <;> rfl

/-- The last bytes of a character, each of which carries six bits of its number. -/
def carried (v : Nat) : Nat → List UInt8
  | 0 => []
  | n + 1 => UInt8.ofNat (v / 64 ^ n % 64 + 0x80) :: carried v n

theorem encodeChar_ofNat {v : Nat} (hv : v < 0xd800 ∨ 0xdfff < v ∧ v < 0x110000) :
    String.utf8EncodeChar (Char.ofNat v) =
      if v ≤ 0x7f then [UInt8.ofNat v]
      else if v ≤ 0x7ff then UInt8.ofNat (v / 64 % 32 + 0xc0) :: carried v 1
      else if v ≤ 0xffff then UInt8.ofNat (v / 4096 % 16 + 0xe0) :: carried v 2
      else UInt8.ofNat (v / 262144 % 8 + 0xf0) :: carried v 3 := by
  have hc : (Char.ofNat v).val.toNat = v := by
    rw [Char.ofNat, dif_pos hv]
    rfl
  unfold String.utf8EncodeChar
  rw [hc]
  simp [carried]

/-- What is known of the bytes of a character that have been read: whatever the others carry, they are
the first of its bytes. -/
def Begun : State → List UInt8 → Prop
  | .start, seen => seen = []
  | .inside following low high bits, seen =>
    ∃ n, following = n + 1 ∧ 0x80 ≤ low ∧ high ≤ 0xBF ∧
      ∀ v, v / 64 ^ n / 64 = bits → low ≤ v / 64 ^ n % 64 + 0x80 → v / 64 ^ n % 64 + 0x80 ≤ high →
        String.utf8EncodeChar (Char.ofNat v) = seen ++ carried v (n + 1)

theorem begun_two {b bits : Nat} (hb : b = bits + 0xC0) (hl : 2 ≤ bits) (hh : bits < 32) :
    Begun (.inside 1 0x80 0xBF bits) [UInt8.ofNat b] := by
  refine ⟨0, rfl, by decide, by decide, fun v hv _ _ => ?_⟩
  rw [Nat.pow_zero, Nat.div_one] at hv
  have hb : v / 64 % 32 + 0xc0 = b := by omega
  rw [encodeChar_ofNat (by omega), if_neg (by omega), if_pos (by omega), hb]
  rfl

theorem begun_three {b low high bits : Nat} (hb : b = bits + 0xE0) (hbits : bits < 16)
    (hlow : 0x80 ≤ low) (hhigh : high ≤ 0xBF) (hfirst : bits = 0 → 0xA0 ≤ low)
    (hhalf : bits = 0xD → high ≤ 0x9F) : Begun (.inside 2 low high bits) [UInt8.ofNat b] := by
  refine ⟨1, rfl, hlow, hhigh, fun v hv hvl hvh => ?_⟩
  rw [Nat.pow_one] at hv hvl hvh
  have hb : v / 4096 % 16 + 0xe0 = b := by omega
  rw [encodeChar_ofNat (by omega), if_neg (by omega), if_neg (by omega), if_pos (by omega), hb]
  rfl

theorem begun_four {b low high bits : Nat} (hb : b = bits + 0xF0) (hbits : bits < 5)
    (hlow : 0x80 ≤ low) (hhigh : high ≤ 0xBF) (hfirst : bits = 0 → 0x90 ≤ low)
    (hlast : bits = 4 → high ≤ 0x8F) : Begun (.inside 3 low high bits) [UInt8.ofNat b] := by
  refine ⟨2, rfl, hlow, hhigh, fun v hv hvl hvh => ?_⟩
  change v / 4096 / 64 = bits at hv
  change low ≤ v / 4096 % 64 + 0x80 at hvl
  change v / 4096 % 64 + 0x80 ≤ high at hvh
  have hb : v / 262144 % 8 + 0xf0 = b := by omega
  rw [encodeChar_ofNat (by omega), if_neg (by omega), if_neg (by omega), if_neg (by omega), hb]
  rfl

theorem begun_lead {b : Nat} {l : Lead} (h : lead? b = some l) :
    Begun (.inside l.following l.low l.high l.bits) [UInt8.ofNat b] := by
  unfold lead? at h
  split_ifs at h <;> cases h <;> dsimp only
  · exact begun_two (by omega) (by omega) (by omega)
  · exact begun_three (by omega) (by omega) (by omega) (by omega) (by omega) (by omega)
  · exact begun_three (by omega) (by omega) (by omega) (by omega) (by omega) (by omega)
  · exact begun_three (by omega) (by omega) (by omega) (by omega) (by omega) (by omega)
  · exact begun_four (by omega) (by omega) (by omega) (by omega) (by omega) (by omega)
  · exact begun_four (by omega) (by omega) (by omega) (by omega) (by omega) (by omega)
  · exact begun_four (by omega) (by omega) (by omega) (by omega) (by omega) (by omega)

/-- One byte of a text: it completes a character or leaves one begun. -/
theorem begun_step {state : State} {seen : List UInt8} (h : Begun state seen) {b : Nat}
    (hs : none ∉ (step state b).1) :
    ∃ done rest, (step state b).1 = done.map some ∧ seen ++ [UInt8.ofNat b] = encode done ++ rest ∧
      Begun (step state b).2 rest := by
  cases state with
  | start =>
    obtain rfl : seen = [] := h
    rw [step, begin] at hs ⊢
    by_cases hb : b < 0x80
    · rw [if_pos hb]
      have he : String.utf8EncodeChar (Char.ofNat b) = [UInt8.ofNat b] := by
        rw [encodeChar_ofNat (by omega), if_pos (by omega)]
      exact ⟨[Char.ofNat b], [], rfl, by simp [encode, he], rfl⟩
    · rw [if_neg hb] at hs ⊢
      cases hl : lead? b with
      | none => simp [hl] at hs
      | some l => exact ⟨[], [UInt8.ofNat b], rfl, rfl, begun_lead hl⟩
  | inside following low high bits =>
    obtain ⟨n, rfl, hlow, hhigh, hv⟩ := h
    rw [step] at hs ⊢
    by_cases hb : low ≤ b ∧ b ≤ high
    · -- six bits more are known of the number, and one byte more of the character
      have hnext : ∀ v, v / 64 ^ n = bits * 64 + (b - 0x80) →
          String.utf8EncodeChar (Char.ofNat v) = (seen ++ [UInt8.ofNat b]) ++ carried v n := by
        intro v hw
        have hc : v / 64 ^ n % 64 + 0x80 = b := by omega
        rw [hv v (by omega) (by omega) (by omega), carried, hc, List.append_assoc,
          List.singleton_append]
      rw [if_pos hb]
      cases n with
      | zero =>
        have he := hnext (bits * 64 + (b - 0x80)) (Nat.div_one _)
        rw [if_pos (Nat.le_refl 1)]
        exact ⟨[_], [], rfl, by simpa [encode, carried] using he.symm, rfl⟩
      | succ n =>
        rw [if_neg (by omega)]
        refine ⟨[], seen ++ [UInt8.ofNat b], rfl, rfl, n, rfl, by decide, by decide,
          fun v hw _ _ => hnext v ?_⟩
        rw [Nat.pow_succ, ← Nat.div_div_eq_div_mul, hw]
    · simp [hb] at hs

theorem read_eq_encode {state : State} {seen bytes : List UInt8} {s : List Char}
    (h : Begun state seen) (hr : read state bytes = s.map some) : seen ++ bytes = encode s := by
  induction bytes generalizing state seen s with
  | nil =>
    cases state with
    | start =>
      obtain rfl : seen = [] := h
      obtain rfl : s = [] := by simpa [read] using hr.symm
      rfl
    | inside following low high bits =>
      have hm : none ∈ s.map some := hr ▸ List.mem_singleton_self none
      simp at hm
  | cons b r ih =>
    rw [read] at hr
    dsimp only at hr
    have hs : none ∉ (step state b.toNat).1 := by
      intro hm
      have hm : none ∈ s.map some := hr ▸ List.mem_append_left _ hm
      simp at hm
    obtain ⟨done, rest, hd, he, hn⟩ := begun_step h hs
    rw [UInt8.ofNat_toNat] at he
    rw [hd] at hr
    obtain ⟨front, back, rfl, hf, hb⟩ := List.map_eq_append_iff.mp hr.symm
    obtain rfl : front = done := (List.map_inj_right fun _ _ => Option.some.inj).mp hf
    have ht := ih hn hb.symm
    rw [← List.singleton_append, ← List.append_assoc, he, List.append_assoc, ht]
    simp [encode]

theorem decode?_eq_some {bytes : List UInt8} {s : List Char} :
    decode? bytes = some s ↔ bytes = encode s := by
  refine ⟨fun h => ?_, ?_⟩
  · have hs : Begun .start [] := rfl
    exact read_eq_encode hs (eq_map_some h)
  · rintro rfl
    exact decode?_encode s

/-- A byte of a character is the character itself or no ASCII. -/
theorem byte_of_char {c : Char} {b : UInt8} (h : b ∈ String.utf8EncodeChar c) :
    b.toNat = c.toNat ∨ 0x80 ≤ b.toNat := by
  have high : ∀ n, 0x80 ≤ n → n < 256 → 0x80 ≤ (UInt8.ofNat n).toNat := by
    intro n hl hh
    rwa [toNat_ofNat hh]
  unfold String.utf8EncodeChar at h
  change b ∈ (if c.toNat ≤ _ then _ else _) at h
  split at h
  · rename_i h1
    rw [List.mem_singleton.mp h]
    exact .inl (toNat_ofNat (Nat.lt_of_le_of_lt h1 (by decide)))
  · refine .inr ?_
    split at h
    · simp only [List.mem_cons, List.not_mem_nil, or_false] at h
      obtain rfl | rfl := h <;> exact high _ (by omega) (by omega)
    split at h
    · simp only [List.mem_cons, List.not_mem_nil, or_false] at h
      obtain rfl | rfl | rfl := h <;> exact high _ (by omega) (by omega)
    · simp only [List.mem_cons, List.not_mem_nil, or_false] at h
      obtain rfl | rfl | rfl | rfl := h <;> exact high _ (by omega) (by omega)

theorem encode_printing {s : List Char} (h : ∀ c ∈ s, 32 ≤ c.toNat) :
    ∀ b ∈ encode s, 32 ≤ b.toNat := by
  intro b hb
  obtain ⟨c, hc, hb⟩ := List.mem_flatMap.mp hb
  have hp := h c hc
  have hs := byte_of_char hb
  omega

end ScreenAgent.Text.Utf8
