import Crosslink.Text.LineBreak
import Crosslink.Text.Utf8

/-!
# Text in UTF-8

Bytes that can be decoded are the bytes of the text that they spell, so a text is written as the
bytes it was read from, and every text is read back from the bytes it is written as. Characters
below `U+0080` are single bytes, which are part of no other character.
-/

namespace Crosslink.Text.Utf8

theorem toNat_ofNat {n : Nat} (h : n.isValidChar) : (Char.ofNat n).val.toNat = n := by
  rw [Char.ofNat, dif_pos h]
  rfl

theorem isTail_iff {b : UInt8} : isTail b = true ↔ 128 ≤ b.toNat ∧ b.toNat ≤ 191 := by
  simp [isTail, UInt8.le_iff_toNat_le]

/-- What the second byte of a character may be, by the first one. -/
theorem of_isSecond {a b : UInt8} (h : isSecond a b = true) :
    128 ≤ b.toNat ∧ b.toNat ≤ 191 ∧ (a.toNat = 224 → 160 ≤ b.toNat) ∧
      (a.toNat = 237 → b.toNat ≤ 159) ∧ (a.toNat = 240 → 144 ≤ b.toNat) ∧
      (a.toNat = 244 → b.toNat ≤ 143) := by
  simp only [isSecond, Bool.and_eq_true, isTail_iff, beq_iff_eq, ← UInt8.toNat_inj] at h
  obtain ⟨⟨hlow, hhigh⟩, hrest⟩ := h
  refine ⟨hlow, hhigh, ?_⟩
  repeat' split at hrest
  all_goals
    simp only [decide_eq_true_eq, UInt8.le_iff_toNat_le, UInt8.reduceToNat] at *
    omega

section

variable {n : Nat}

theorem encodeChar_one (h : n < 128) :
    String.utf8EncodeChar (Char.ofNat n) = [UInt8.ofNat n] := by
  have hn := toNat_ofNat (.inl (by omega) : n.isValidChar)
  simp only [String.utf8EncodeChar, hn]
  rw [if_pos (by omega)]

theorem encodeChar_two (hlow : 128 ≤ n) (hhigh : n < 2048) :
    String.utf8EncodeChar (Char.ofNat n) =
      [UInt8.ofNat (n / 64 % 32 + 192), UInt8.ofNat (n % 64 + 128)] := by
  have hn := toNat_ofNat (.inl (by omega) : n.isValidChar)
  simp only [String.utf8EncodeChar, hn]
  rw [if_neg (by omega), if_pos (by omega)]

theorem encodeChar_three (h : n.isValidChar) (hlow : 2048 ≤ n) (hhigh : n < 65536) :
    String.utf8EncodeChar (Char.ofNat n) =
      [UInt8.ofNat (n / 4096 % 16 + 224), UInt8.ofNat (n / 64 % 64 + 128),
        UInt8.ofNat (n % 64 + 128)] := by
  have hn := toNat_ofNat h
  simp only [String.utf8EncodeChar, hn]
  rw [if_neg (by omega), if_neg (by omega), if_pos (by omega)]

theorem encodeChar_four (h : n.isValidChar) (hlow : 65536 ≤ n) :
    String.utf8EncodeChar (Char.ofNat n) =
      [UInt8.ofNat (n / 262144 % 8 + 240), UInt8.ofNat (n / 4096 % 64 + 128),
        UInt8.ofNat (n / 64 % 64 + 128), UInt8.ofNat (n % 64 + 128)] := by
  have hn := toNat_ofNat h
  simp only [String.utf8EncodeChar, hn]
  rw [if_neg (by omega), if_neg (by omega), if_neg (by omega)]

end

/-- A byte is that of its number, however the number is given. -/
theorem ofNat_eq {a : UInt8} {n : Nat} (h : n = a.toNat) : UInt8.ofNat n = a := by
  rw [h, UInt8.ofNat_toNat]

/-- The bytes at the front of a sequence are a character, which takes so many after the first. -/
inductive Leads : (bs : List UInt8) → Char → (extra : Nat) → Prop
  | one {a : UInt8} {rest : List UInt8} (ha : a.toNat < 128) :
      Leads (a :: rest) (Char.ofNat a.toNat) 0
  | two {a b : UInt8} {rest : List UInt8} (ha : 194 ≤ a.toNat ∧ a.toNat < 224)
      (hb : isSecond a b = true) :
      Leads (a :: b :: rest) (Char.ofNat (a.toNat % 32 * 64 + tailBits b)) 1
  | three {a b c : UInt8} {rest : List UInt8} (ha : 224 ≤ a.toNat ∧ a.toNat < 240)
      (hb : isSecond a b = true) (hc : isTail c = true) :
      Leads (a :: b :: c :: rest)
        (Char.ofNat (a.toNat % 16 * 4096 + tailBits b * 64 + tailBits c)) 2
  | four {a b c d : UInt8} {rest : List UInt8} (ha : 240 ≤ a.toNat ∧ a.toNat ≤ 244)
      (hb : isSecond a b = true) (hc : isTail c = true) (hd : isTail d = true) :
      Leads (a :: b :: c :: d :: rest)
        (Char.ofNat (a.toNat % 8 * 262144 + tailBits b * 4096 + tailBits c * 64 + tailBits d)) 3

section

variable {bs : List UInt8} {c : Char} {extra : Nat}

theorem leads_of_leading (h : leading bs = .ok (c, extra)) : Leads bs c extra := by
  rcases bs with _ | ⟨a, bs⟩
  · cases h
  rw [leading.eq_def] at h
  simp only at h
  split at h
  · rename_i hone
    cases h
    exact .one (UInt8.lt_iff_toNat_lt.mp hone)
  split at h
  · cases h
  rename_i hstart
  have hstart : 194 ≤ a.toNat ∧ a.toNat ≤ 244 := by
    simpa [UInt8.lt_iff_toNat_lt] using hstart
  rcases bs with _ | ⟨b, bs⟩
  · cases h
  simp only at h
  split at h
  · cases h
  rename_i hb
  have hb : isSecond a b = true := by simpa using hb
  split at h
  · rename_i htwo
    cases h
    exact .two ⟨hstart.1, UInt8.lt_iff_toNat_lt.mp htwo⟩ hb
  rename_i htwo
  have htwo : 224 ≤ a.toNat := Nat.not_lt.mp fun hlt => htwo (UInt8.lt_iff_toNat_lt.mpr hlt)
  rcases bs with _ | ⟨c', bs⟩
  · cases h
  simp only at h
  split at h
  · cases h
  rename_i hc
  have hc : isTail c' = true := by simpa using hc
  split at h
  · rename_i hthree
    cases h
    exact .three ⟨htwo, UInt8.lt_iff_toNat_lt.mp hthree⟩ hb hc
  rename_i hthree
  have hthree : 240 ≤ a.toNat :=
    Nat.not_lt.mp fun hlt => hthree (UInt8.lt_iff_toNat_lt.mpr hlt)
  rcases bs with _ | ⟨d, bs⟩
  · cases h
  simp only at h
  split at h
  · cases h
  rename_i hd
  cases h
  exact .four ⟨hthree, hstart.2⟩ hb hc (by simpa using hd)

theorem Leads.leading (h : Leads bs c extra) : Utf8.leading bs = .ok (c, extra) := by
  rw [leading.eq_def]
  cases h with
  | one ha =>
    simp only
    rw [if_pos (UInt8.lt_iff_toNat_lt.mpr ha)]
  | two ha hb =>
    simp only
    rw [if_neg, if_neg, if_neg (by simp [hb]), if_pos]
    all_goals
      simp only [Bool.or_eq_true, decide_eq_true_eq, UInt8.lt_iff_toNat_lt, UInt8.reduceToNat]
      omega
  | three ha hb hc =>
    simp only
    rw [if_neg, if_neg, if_neg (by simp [hb]), if_neg, if_neg (by simp [hc]), if_pos]
    all_goals
      simp only [Bool.or_eq_true, decide_eq_true_eq, UInt8.lt_iff_toNat_lt, UInt8.reduceToNat]
      omega
  | four ha hb hc hd =>
    simp only
    rw [if_neg, if_neg, if_neg (by simp [hb]), if_neg, if_neg (by simp [hc]), if_neg,
      if_neg (by simp [hd])]
    all_goals
      simp only [Bool.or_eq_true, decide_eq_true_eq, UInt8.lt_iff_toNat_lt, UInt8.reduceToNat]
      omega

/-- The character at the front is encoded by the bytes that it takes. -/
theorem Leads.encode (h : Leads bs c extra) :
    ∃ a tail rest, tail.length = extra ∧ bs = a :: (tail ++ rest) ∧
      String.utf8EncodeChar c = a :: tail := by
  cases h with
  | @one a rest ha => exact ⟨a, [], rest, rfl, rfl, by rw [encodeChar_one ha, UInt8.ofNat_toNat]⟩
  | @two a b rest ha hb =>
    have hb := isTail_iff.mp (Bool.and_eq_true_iff.mp hb).1
    refine ⟨a, [b], rest, rfl, rfl, ?_⟩
    rw [tailBits, encodeChar_two (by omega) (by omega), ofNat_eq (a := a) (by omega),
      ofNat_eq (a := b) (by omega)]
  | @three a b c rest ha hb hc =>
    -- the second byte after `0xE0` and `0xED` rules out overlong forms and surrogates
    obtain ⟨hblow, hbhigh, hb⟩ := of_isSecond hb
    have hc := isTail_iff.mp hc
    refine ⟨a, [b, c], rest, rfl, rfl, ?_⟩
    rw [tailBits, tailBits, encodeChar_three (by unfold Nat.isValidChar; omega) (by omega)
      (by omega), ofNat_eq (a := a) (by omega), ofNat_eq (a := b) (by omega),
      ofNat_eq (a := c) (by omega)]
  | @four a b c d rest ha hb hc hd =>
    obtain ⟨hblow, hbhigh, hb⟩ := of_isSecond hb
    have hc := isTail_iff.mp hc
    have hd := isTail_iff.mp hd
    refine ⟨a, [b, c, d], rest, rfl, rfl, ?_⟩
    rw [tailBits, tailBits, tailBits, encodeChar_four (by unfold Nat.isValidChar; omega)
      (by omega), ofNat_eq (a := a) (by omega), ofNat_eq (a := b) (by omega),
      ofNat_eq (a := c) (by omega), ofNat_eq (a := d) (by omega)]

end

/-- Bytes of the last character are passed over. -/
theorem decodeFrom_append (tail rest : List UInt8) (pos : Nat) :
    decodeFrom tail.length pos (tail ++ rest) = decodeFrom 0 (pos + tail.length) rest := by
  induction tail generalizing pos with
  | nil => rfl
  | cons b tail ih =>
    rw [List.length_cons, List.cons_append, decodeFrom, ih]
    congr 1
    omega

theorem encode_of_decodeFrom {bs : List UInt8} {pos : Nat} {cs : List Char}
    (h : decodeFrom 0 pos bs = .ok cs) : encode cs = bs := by
  -- by induction on the number of bytes, as a character takes several of them
  induction hn : bs.length using Nat.strongRecOn generalizing bs pos cs with
  | ind n ih =>
    cases bs with
    | nil =>
      cases h
      rfl
    | cons b bs =>
      rw [decodeFrom] at h
      rcases hl : leading (b :: bs) with ⟨size, reason⟩ | ⟨c, extra⟩ <;> rw [hl] at h
      · cases h
      obtain ⟨a, tail, rest, rfl, hbs, hc⟩ := (leads_of_leading hl).encode
      obtain ⟨rfl, rfl⟩ := List.cons.inj hbs
      simp only [decodeFrom_append] at h
      rcases hrest : decodeFrom 0 (pos + 1 + tail.length) rest with f | ds <;> rw [hrest] at h
      · cases h
      obtain rfl : c :: ds = cs := Except.ok.inj h
      have hlength : rest.length < n := by
        rw [← hn, List.length_cons, List.length_append]
        omega
      have hds := ih _ hlength hrest rfl
      calc encode (c :: ds) = String.utf8EncodeChar c ++ encode ds := List.flatMap_cons
        _ = b :: (tail ++ rest) := by rw [hc, hds, List.cons_append]

/-- A text is written as the bytes from which it was read. -/
theorem encode_of_decode {bs : List UInt8} {cs : List Char} (h : decode bs = .ok cs) :
    encode cs = bs := encode_of_decodeFrom h

/-- What may be the second byte of a character. -/
theorem isSecond_of {a b : UInt8} (h : 128 ≤ b.toNat ∧ b.toNat ≤ 191)
    (hlong : (a.toNat = 224 → 160 ≤ b.toNat) ∧ (a.toNat = 240 → 144 ≤ b.toNat))
    (hlast : (a.toNat = 237 → b.toNat ≤ 159) ∧ (a.toNat = 244 → b.toNat ≤ 143)) :
    isSecond a b = true := by
  simp only [isSecond, Bool.and_eq_true, isTail_iff, beq_iff_eq, ← UInt8.toNat_inj]
  refine ⟨h, ?_⟩
  repeat' split
  all_goals
    (try simp only [decide_eq_true_eq, UInt8.le_iff_toNat_le, UInt8.reduceToNat] at *) <;> omega

/-- A character is read from the bytes by which it is encoded, whatever follows them. -/
theorem leading_encodeChar (c : Char) (rest : List UInt8) :
    ∃ a tail, String.utf8EncodeChar c = a :: tail ∧
      leading (a :: (tail ++ rest)) = .ok (c, tail.length) := by
  obtain ⟨n, hn, rfl⟩ : ∃ n : Nat, n.isValidChar ∧ c = Char.ofNat n :=
    ⟨c.toNat, c.valid, (Char.ofNat_toNat c).symm⟩
  have hbyte : ∀ {m : Nat}, m < 256 → (UInt8.ofNat m).toNat = m := UInt8.toNat_ofNat_of_lt'
  have hlast := hbyte (m := n % 64 + 128) (by omega)
  have hthird := hbyte (m := n / 64 % 64 + 128) (by omega)
  have hsecond := hbyte (m := n / 4096 % 64 + 128) (by omega)
  by_cases hone : n < 128
  · have ha := hbyte (m := n) (by omega)
    refine ⟨_, [], encodeChar_one hone, ?_⟩
    rw [List.nil_append, Leads.leading (.one (by omega)), ha]
    rfl
  by_cases htwo : n < 2048
  · have ha := hbyte (m := n / 64 % 32 + 192) (by omega)
    refine ⟨_, _, encodeChar_two (by omega) htwo, ?_⟩
    rw [List.singleton_append, Leads.leading (.two (by omega) (isSecond_of (by omega) (by omega)
      (by omega))), tailBits, ha, hlast]
    congr 3
    omega
  by_cases hthree : n < 65536
  · have ha := hbyte (m := n / 4096 % 16 + 224) (by omega)
    refine ⟨_, _, encodeChar_three hn (by omega) hthree, ?_⟩
    -- no surrogate is a character, and nothing below `U+0800` is encoded by three bytes
    unfold Nat.isValidChar at hn
    rw [List.cons_append, List.singleton_append, Leads.leading (.three (by omega)
      (isSecond_of (by omega) (by omega) (by omega)) (isTail_iff.mpr (by omega))), tailBits,
      tailBits, ha, hthird, hlast]
    congr 3
    omega
  · have ha := hbyte (m := n / 262144 % 8 + 240) (by omega)
    refine ⟨_, _, encodeChar_four hn (by omega), ?_⟩
    unfold Nat.isValidChar at hn
    rw [List.cons_append, List.cons_append, List.singleton_append, Leads.leading (.four (by omega)
      (isSecond_of (by omega) (by omega) (by omega)) (isTail_iff.mpr (by omega))
      (isTail_iff.mpr (by omega))), tailBits, tailBits, tailBits, ha, hsecond, hthird, hlast]
    congr 3
    omega

theorem decodeFrom_encode (pos : Nat) (cs : List Char) :
    decodeFrom 0 pos (encode cs) = .ok cs := by
  induction cs generalizing pos with
  | nil => rfl
  | cons c cs ih =>
    obtain ⟨a, tail, hc, hread⟩ := leading_encodeChar c (encode cs)
    have hbytes : encode (c :: cs) = a :: (tail ++ encode cs) := by
      rw [encode, List.flatMap_cons, hc, List.cons_append]
      rfl
    rw [hbytes, decodeFrom, hread]
    simp only [decodeFrom_append, ih]
    rfl

/-- A text is read back from the bytes by which it is written. -/
theorem decode_encode (cs : List Char) : decode (encode cs) = .ok cs := decodeFrom_encode 0 cs

/-- A byte below `0x80` is one character, and is part of no other one. -/
theorem mem_encodeChar {b : UInt8} (hb : b.toNat < 128) (c : Char) :
    b ∈ String.utf8EncodeChar c ↔ c = Char.ofNat b.toNat := by
  have hc : c = Char.ofNat b.toNat ↔ c.val.toNat = b.toNat := by
    constructor
    · rintro rfl
      exact toNat_ofNat (.inl (by omega))
    · intro h
      rw [← h]
      exact (Char.ofNat_toNat c).symm
  rw [hc]
  simp only [String.utf8EncodeChar]
  have hmem : ∀ n, b = UInt8.ofNat n ↔ b.toNat = n % 256 := fun n => by
    rw [← UInt8.toNat_inj, UInt8.toNat_ofNat']
  repeat' split
  all_goals
    simp only [List.mem_cons, List.not_mem_nil, or_false, hmem]
    omega

theorem mem_encode {b : UInt8} (hb : b.toNat < 128) (cs : List Char) :
    b ∈ encode cs ↔ Char.ofNat b.toNat ∈ cs := by
  simp only [encode, List.mem_flatMap, mem_encodeChar hb, exists_eq_right]

end Crosslink.Text.Utf8
