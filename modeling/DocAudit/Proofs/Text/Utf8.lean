import DocAudit.Text.Utf8

/-!
# Text and its bytes

Every text has one form in bytes: writing what was read gives the bytes back, and reading what was written
gives the text back.

## Contents

* `Utf8.announce_eq_some_iff`: what a first byte announces, by ranges of bytes
* `Utf8.takeConts_succ_iff`: one more byte of a character
* `Utf8.eq_encodeChar_append`, `Utf8.takeChar_encodeChar`: a character and its bytes
* `Utf8.encode_of_decode?`, `Utf8.decode?_encode`: **a text and its bytes**
-/

namespace DocAudit.Text.Utf8

/-- What a first byte announces. A character of more than one byte is never written with more bytes than it
needs, and what stands for no character is left out: so the second byte has a range of its own. -/
theorem announce_eq_some_iff {b : UInt8} {k low high bits : Nat} :
    announce b = some (k, low, high, bits) ↔
      (b.toNat < 0x80 ∧ k = 0 ∧ low = 0 ∧ high = 0 ∧ bits = b.toNat) ∨
      (0xC2 ≤ b.toNat ∧ b.toNat < 0xE0 ∧ k = 1 ∧ low = 0x80 ∧ high = 0xBF ∧ bits = b.toNat - 0xC0) ∨
      (0xE0 ≤ b.toNat ∧ b.toNat < 0xF0 ∧ k = 2 ∧ low = (if b.toNat = 0xE0 then 0xA0 else 0x80) ∧
        high = (if b.toNat = 0xED then 0x9F else 0xBF) ∧ bits = b.toNat - 0xE0) ∨
      (0xF0 ≤ b.toNat ∧ b.toNat ≤ 0xF4 ∧ k = 3 ∧ low = (if b.toNat = 0xF0 then 0x90 else 0x80) ∧
        high = (if b.toNat = 0xF4 then 0x8F else 0xBF) ∧ bits = b.toNat - 0xF0) := by
  unfold announce
  simp only [beq_iff_eq]
  grind

/-- One more byte of a character: it is in the range, and adds six bits. -/
theorem takeConts_succ_iff {k low high acc good n : Nat} {rest after : List UInt8} :
    takeConts (k + 1) low high acc good rest = .ok (n, after) ↔
      ∃ b rest', rest = b :: rest' ∧ low ≤ b.toNat ∧ b.toNat ≤ high ∧
        takeConts k 0x80 0xBF (acc * 64 + (b.toNat - 0x80)) (good + 1) rest' = .ok (n, after) := by
  cases rest with
  | nil =>
    constructor
    · intro h
      cases h
    · rintro ⟨b, rest', h, -⟩
      cases h
  | cons b rest =>
    rw [takeConts]
    cases hcont : isCont low high b with
    | false =>
      rw [if_neg Bool.false_ne_true]
      constructor
      · intro h
        cases h
      · rintro ⟨b', rest', h, hlow, hhigh, -⟩
        cases h
        rw [isCont, Bool.and_eq_false_iff, decide_eq_false_iff_not, decide_eq_false_iff_not] at hcont
        omega
    | true =>
      rw [if_pos rfl]
      rw [isCont, Bool.and_eq_true, decide_eq_true_iff, decide_eq_true_iff] at hcont
      constructor
      · intro h
        exact ⟨b, rest, rfl, hcont.1, hcont.2, h⟩
      · rintro ⟨b', rest', h, -, -, htake⟩
        cases h
        exact htake

theorem takeConts_zero_iff {low high acc good n : Nat} {rest after : List UInt8} :
    takeConts 0 low high acc good rest = .ok (n, after) ↔ n = acc ∧ after = rest := by
  rw [takeConts]
  constructor
  · intro h
    cases h
    exact ⟨rfl, rfl⟩
  · rintro ⟨rfl, rfl⟩
    rfl

/-- A character is read when its first byte announces as many bytes as follow. -/
theorem takeChar_eq_ok_iff {b : UInt8} {rest after : List UInt8} {c : Char} :
    takeChar b rest = .ok (c, after) ↔ ∃ k low high bits n, announce b = some (k, low, high, bits) ∧
      takeConts k low high bits 0 rest = .ok (n, after) ∧ c = Char.ofNat n := by
  unfold takeChar
  cases hannounce : announce b with
  | none =>
    constructor
    · intro h
      cases h
    · rintro ⟨k, low, high, bits, n, h, -⟩
      cases h
  | some a =>
    obtain ⟨k, low, high, bits⟩ := a
    dsimp only
    cases hconts : takeConts k low high bits 0 rest with
    | error good =>
      constructor
      · intro h
        cases h
      · rintro ⟨k', low', high', bits', n, h, htake, -⟩
        cases h
        rw [hconts] at htake
        cases htake
    | ok r =>
      obtain ⟨n, after'⟩ := r
      constructor
      · intro h
        cases h
        exact ⟨k, low, high, bits, n, rfl, hconts, rfl⟩
      · rintro ⟨k', low', high', bits', n', h, htake, rfl⟩
        cases h
        rw [hconts] at htake
        cases htake
        rfl

theorem toUInt8_eq {n : Nat} {b : UInt8} (h : n = b.toNat) : n.toUInt8 = b := by
  rw [h]
  exact UInt8.ofNat_toNat

theorem toNat_ofNat {n : Nat} (h : n < 0xD800 ∨ 0xDFFF < n ∧ n < 0x110000) : (Char.ofNat n).toNat = n := by
  have hvalid : n.isValidChar := h
  unfold Char.ofNat
  rw [dif_pos hvalid]
  exact rfl

/-- **A character that is read is written with the same bytes.** -/
theorem eq_encodeChar_append {b : UInt8} {rest after : List UInt8} {c : Char}
    (h : takeChar b rest = .ok (c, after)) : b :: rest = encodeChar c ++ after := by
  obtain ⟨k, low, high, bits, n, hannounce, hconts, rfl⟩ := takeChar_eq_ok_iff.mp h
  rcases announce_eq_some_iff.mp hannounce with ⟨hb, hk, -, -, hbits⟩ | ⟨hlow, hhigh, hk, hl, hh, hbits⟩ |
    ⟨hlow, hhigh, hk, hl, hh, hbits⟩ | ⟨hlow, hhigh, hk, hl, hh, hbits⟩
  · subst hk hbits
    obtain ⟨rfl, rfl⟩ := takeConts_zero_iff.mp hconts
    have hn := toNat_ofNat (n := b.toNat) (by omega)
    unfold encodeChar
    rw [hn, if_pos hb, toUInt8_eq rfl]
    rfl
  · rw [hk, hl, hh, hbits] at hconts
    obtain ⟨b₁, rest, rfl, hlow₁, hhigh₁, hconts⟩ := takeConts_succ_iff.mp hconts
    obtain ⟨hvalue, rfl⟩ := takeConts_zero_iff.mp hconts
    have hn := toNat_ofNat (n := n) (by omega)
    unfold encodeChar
    rw [hn, if_neg (by omega), if_pos (by omega), toUInt8_eq (b := b) (by omega), toUInt8_eq (b := b₁) (by omega)]
    rfl
  · rw [hk, hl, hh, hbits] at hconts
    obtain ⟨b₁, rest, rfl, hlow₁, hhigh₁, hconts⟩ := takeConts_succ_iff.mp hconts
    obtain ⟨b₂, rest, rfl, hlow₂, hhigh₂, hconts⟩ := takeConts_succ_iff.mp hconts
    obtain ⟨hvalue, rfl⟩ := takeConts_zero_iff.mp hconts
    -- the range of the second byte keeps out what has fewer bytes, and what stands for no character
    have hrange : 0x80 ≤ b₁.toNat ∧ b₁.toNat ≤ 0xBF ∧ 0x800 ≤ n ∧ (n < 0xD800 ∨ 0xDFFF < n) := by
      split at hlow₁ <;> split at hhigh₁ <;> omega
    have hn := toNat_ofNat (n := n) (by omega)
    unfold encodeChar
    rw [hn, if_neg (by omega), if_neg (by omega), if_pos (by omega), toUInt8_eq (b := b) (by omega),
      toUInt8_eq (b := b₁) (by omega), toUInt8_eq (b := b₂) (by omega)]
    rfl
  · rw [hk, hl, hh, hbits] at hconts
    obtain ⟨b₁, rest, rfl, hlow₁, hhigh₁, hconts⟩ := takeConts_succ_iff.mp hconts
    obtain ⟨b₂, rest, rfl, hlow₂, hhigh₂, hconts⟩ := takeConts_succ_iff.mp hconts
    obtain ⟨b₃, rest, rfl, hlow₃, hhigh₃, hconts⟩ := takeConts_succ_iff.mp hconts
    obtain ⟨hvalue, rfl⟩ := takeConts_zero_iff.mp hconts
    have hrange : 0x80 ≤ b₁.toNat ∧ b₁.toNat ≤ 0xBF ∧ 0x10000 ≤ n ∧ n < 0x110000 := by
      split at hlow₁ <;> split at hhigh₁ <;> omega
    have hn := toNat_ofNat (n := n) (by omega)
    unfold encodeChar
    rw [hn, if_neg (by omega), if_neg (by omega), if_neg (by omega), toUInt8_eq (b := b) (by omega),
      toUInt8_eq (b := b₁) (by omega), toUInt8_eq (b := b₂) (by omega), toUInt8_eq (b := b₃) (by omega)]
    rfl

theorem toNat_toUInt8 {n : Nat} (h : n < 256) : n.toUInt8.toNat = n := Nat.mod_eq_of_lt h

/-- **A character that is written is read from its bytes, whatever follows them.** -/
theorem takeChar_encodeChar (c : Char) : ∃ b more, encodeChar c = b :: more ∧
    ∀ rest, takeChar b (more ++ rest) = .ok (c, rest) := by
  have hvalid : c.toNat < 0xD800 ∨ 0xDFFF < c.toNat ∧ c.toNat < 0x110000 := c.valid
  have hc : c = Char.ofNat c.toNat := (Char.ofNat_toNat c).symm
  unfold encodeChar
  by_cases h₁ : c.toNat < 0x80
  · rw [if_pos h₁]
    have hb := toNat_toUInt8 (n := c.toNat) (by omega)
    refine ⟨_, _, rfl, fun rest => takeChar_eq_ok_iff.mpr ⟨0, 0, 0, c.toNat, c.toNat, ?_, ?_, hc⟩⟩
    · exact announce_eq_some_iff.mpr (.inl ⟨by omega, rfl, rfl, rfl, hb.symm⟩)
    · exact takeConts_zero_iff.mpr ⟨rfl, rfl⟩
  rw [if_neg h₁]
  by_cases h₂ : c.toNat < 0x800
  · rw [if_pos h₂]
    have hb := toNat_toUInt8 (n := 0xC0 + c.toNat / 64) (by omega)
    have hb₁ := toNat_toUInt8 (n := 0x80 + c.toNat % 64) (by omega)
    refine ⟨_, _, rfl, fun rest => takeChar_eq_ok_iff.mpr ⟨1, 0x80, 0xBF, _, c.toNat,
      announce_eq_some_iff.mpr (.inr (.inl ⟨by omega, by omega, rfl, rfl, rfl, rfl⟩)), ?_, hc⟩⟩
    refine takeConts_succ_iff.mpr ⟨_, rest, rfl, by omega, by omega, ?_⟩
    exact takeConts_zero_iff.mpr ⟨by omega, rfl⟩
  rw [if_neg h₂]
  by_cases h₃ : c.toNat < 0x10000
  · rw [if_pos h₃]
    have hb := toNat_toUInt8 (n := 0xE0 + c.toNat / 4096) (by omega)
    have hb₁ := toNat_toUInt8 (n := 0x80 + c.toNat / 64 % 64) (by omega)
    have hb₂ := toNat_toUInt8 (n := 0x80 + c.toNat % 64) (by omega)
    refine ⟨_, _, rfl, fun rest => takeChar_eq_ok_iff.mpr ⟨2, _, _, _, c.toNat,
      announce_eq_some_iff.mpr (.inr (.inr (.inl ⟨by omega, by omega, rfl, rfl, rfl, rfl⟩))), ?_, hc⟩⟩
    refine takeConts_succ_iff.mpr ⟨_, _, rfl, ?_, ?_, ?_⟩
    · split <;> omega
    · split <;> omega
    refine takeConts_succ_iff.mpr ⟨_, rest, rfl, by omega, by omega, ?_⟩
    exact takeConts_zero_iff.mpr ⟨by omega, rfl⟩
  · rw [if_neg h₃]
    have hb := toNat_toUInt8 (n := 0xF0 + c.toNat / 262144) (by omega)
    have hb₁ := toNat_toUInt8 (n := 0x80 + c.toNat / 4096 % 64) (by omega)
    have hb₂ := toNat_toUInt8 (n := 0x80 + c.toNat / 64 % 64) (by omega)
    have hb₃ := toNat_toUInt8 (n := 0x80 + c.toNat % 64) (by omega)
    refine ⟨_, _, rfl, fun rest => takeChar_eq_ok_iff.mpr ⟨3, _, _, _, c.toNat,
      announce_eq_some_iff.mpr (.inr (.inr (.inr ⟨by omega, by omega, rfl, rfl, rfl, rfl⟩))), ?_, hc⟩⟩
    refine takeConts_succ_iff.mpr ⟨_, _, rfl, ?_, ?_, ?_⟩
    · split <;> omega
    · split <;> omega
    refine takeConts_succ_iff.mpr ⟨_, _, rfl, by omega, by omega, ?_⟩
    refine takeConts_succ_iff.mpr ⟨_, rest, rfl, by omega, by omega, ?_⟩
    exact takeConts_zero_iff.mpr ⟨by omega, rfl⟩

theorem decode?_nil : decode? [] = some [] := by rw [decode?]

/-- The text behind a character is read after it. -/
theorem decode?_cons {b : UInt8} {rest after : List UInt8} {c : Char} (h : takeChar b rest = .ok (c, after)) :
    decode? (b :: rest) = (decode? after).map (c :: ·) := by
  rw [decode?]
  split
  · next he =>
    rw [h] at he
    cases he
  · next he =>
    rw [h] at he
    cases he
    rfl

/-- **Writing what was read gives the bytes back.** -/
theorem encode_of_decode? {bytes : List UInt8} {text : Text} (h : decode? bytes = some text) :
    encode text = bytes := by
  fun_induction decode? bytes generalizing text with
  | case1 =>
    cases h
    rfl
  | case2 => cases h
  | case3 b rest c after htake ih =>
    obtain ⟨text', htext, rfl⟩ := Option.map_eq_some_iff.mp h
    rw [eq_encodeChar_append htake, ← ih htext]
    exact List.flatMap_cons ..

/-- **Reading what was written gives the text back.** -/
theorem decode?_encode (text : Text) : decode? (encode text) = some text := by
  induction text with
  | nil => exact decode?_nil
  | cons c text ih =>
    obtain ⟨b, more, hbytes, htake⟩ := takeChar_encodeChar c
    unfold encode at ih ⊢
    rw [List.flatMap_cons, hbytes, List.cons_append, decode?_cons (htake _), ih]
    rfl

end DocAudit.Text.Utf8
