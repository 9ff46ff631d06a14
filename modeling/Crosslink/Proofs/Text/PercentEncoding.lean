import Crosslink.Proofs.Text.Utf8
import Crosslink.Text.PercentEncoding

/-!
# Percent encoding is read back

A percent sign with two hexadecimal digits behind it is a byte, every other character stands for
its own bytes, and the bytes spell a text. Every text is read back in this way from its encoded
form, which holds letters, digits, four marks and percent signs only.
-/

namespace Crosslink.Text.PercentEncoding

/-- The number of a hexadecimal digit. -/
def hexValue? (c : Char) : Option Nat :=
  if '0' ≤ c ∧ c ≤ '9' then some (c.toNat - '0'.toNat)
  else if 'A' ≤ c ∧ c ≤ 'F' then some (c.toNat - 'A'.toNat + 10)
  else if 'a' ≤ c ∧ c ≤ 'f' then some (c.toNat - 'a'.toNat + 10)
  else none

/-- The byte that two characters behind a percent sign stand for. -/
def byte? (high low : Char) : Option UInt8 := do
  return UInt8.ofNat (16 * (← hexValue? high) + (← hexValue? low))

/-- The bytes of a text in which bytes may be escaped. A percent sign without two digits behind it
stands for itself. -/
def bytes : List Char → List UInt8
  | '%' :: high :: low :: cs =>
    match byte? high low with
    | some b => b :: bytes cs
    | none => String.utf8EncodeChar '%' ++ bytes (high :: low :: cs)
  | c :: cs => String.utf8EncodeChar c ++ bytes cs
  | [] => []

/-- The text that an encoded text stands for. -/
def decode (cs : List Char) : Except Utf8.Fault (List Char) := Utf8.decode (bytes cs)

theorem hexValue?_hexDigit {n : Nat} (h : n < 16) : hexValue? (hexDigit n) = some n := by
  revert n
  decide

theorem byte?_hexDigits (b : UInt8) :
    byte? (hexDigit (b.toNat / 16)) (hexDigit (b.toNat % 16)) = some b := by
  have hb := b.toNat_lt
  rw [byte?, hexValue?_hexDigit (by omega), hexValue?_hexDigit (Nat.mod_lt _ (by decide))]
  have hsum : 16 * (b.toNat / 16) + b.toNat % 16 = b.toNat := Nat.div_add_mod ..
  simp only [Option.bind_eq_bind, Option.bind_some]
  rw [hsum, UInt8.ofNat_toNat]
  rfl

theorem bytes_escapeByte (b : UInt8) (cs : List Char) :
    bytes (escapeByte b ++ cs) = b :: bytes cs := by
  rw [escapeByte, List.cons_append, List.cons_append, List.singleton_append, bytes,
    byte?_hexDigits]

theorem bytes_flatMap (bs : List UInt8) (cs : List Char) :
    bytes (bs.flatMap escapeByte ++ cs) = bs ++ bytes cs := by
  induction bs with
  | nil => rfl
  | cons b bs ih =>
    rw [List.flatMap_cons, List.append_assoc, bytes_escapeByte, ih, List.cons_append]

theorem bytes_cons {c : Char} (h : c ≠ '%') (cs : List Char) :
    bytes (c :: cs) = String.utf8EncodeChar c ++ bytes cs := by
  rw [bytes]
  exact fun _ _ _ he _ => h he

theorem bytes_encodeChar (c : Char) (cs : List Char) :
    bytes (encodeChar c ++ cs) = String.utf8EncodeChar c ++ bytes cs := by
  rw [encodeChar]
  split
  · rename_i hc
    refine bytes_cons ?_ cs
    rintro rfl
    exact absurd hc (by decide)
  · exact bytes_flatMap _ cs

theorem bytes_encode (cs : List Char) : bytes (encode cs) = Utf8.encode cs := by
  induction cs with
  | nil => rfl
  | cons c cs ih =>
    rw [encode_cons, bytes_encodeChar, ih]
    rfl

/-- A text is read back from its encoded form. -/
theorem decode_encode (cs : List Char) : decode (encode cs) = .ok cs := by
  rw [decode, bytes_encode, Utf8.decode_encode]

theorem isUnreserved_hexDigit {n : Nat} (h : n < 16) : isUnreserved (hexDigit n) = true := by
  revert n
  decide

/-- What an encoded text is made of. -/
theorem of_mem_encode {c : Char} {cs : List Char} (h : c ∈ encode cs) :
    isUnreserved c = true ∨ c = '%' := by
  obtain ⟨d, -, hc⟩ := List.mem_flatMap.mp h
  rw [encodeChar] at hc
  split at hc
  · rename_i hd
    exact .inl (List.mem_singleton.mp hc ▸ hd)
  · obtain ⟨b, -, hc⟩ := List.mem_flatMap.mp hc
    have hb := b.toNat_lt
    simp only [escapeByte, List.mem_cons, List.not_mem_nil, or_false] at hc
    rcases hc with rfl | rfl | rfl
    · exact .inr rfl
    · exact .inl (isUnreserved_hexDigit (by omega))
    · exact .inl (isUnreserved_hexDigit (Nat.mod_lt _ (by decide)))

theorem encode_ne_nil {cs : List Char} (h : cs ≠ []) : encode cs ≠ [] := by
  intro he
  have hread := decode_encode cs
  rw [he] at hread
  exact h (Except.ok.inj hread).symm

end Crosslink.Text.PercentEncoding
