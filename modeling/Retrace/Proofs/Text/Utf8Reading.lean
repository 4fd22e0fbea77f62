import Mathlib.Algebra.GroupWithZero.Nat
import Retrace.Text.Utf8

namespace Retrace.Utf8

theorem decode_cons (b : UInt8) (rest : Bytes) :
    decode (b :: rest) = (first b rest).1 :: decode (first b rest).2 := by
  rw [decode]

theorem first_of_follow {b : UInt8} {lead : Lead} {scalar : Nat} {tail rest : Bytes}
    (hlead : lead? b.toNat = some lead)
    (hfollow : follow lead.more lead.bits lead.low lead.high tail = (some scalar, rest)) :
    first b tail = (Char.ofNat scalar, rest) := by
  rw [first, hlead]
  dsimp only
  rw [hfollow]

section written

variable {d : Nat}

theorem follow_cons {more bits low high : Nat} (hd : d < 64) (hlow : low ≤ d + 128)
    (hhigh : d + 128 ≤ high) (rest : Bytes) :
    follow (more + 1) bits low high (UInt8.ofNat (d + 128) :: rest) =
      follow more (64 * bits + d) 0x80 0xBF rest := by
  have hbyte : (UInt8.ofNat (d + 128)).toNat = d + 128 :=
    UInt8.toNat_ofNat_of_lt' (show d + 128 < 256 by omega)
  rw [follow, hbyte, if_pos ⟨hlow, hhigh⟩, Nat.add_sub_cancel]

theorem lead?_one (hd : d < 128) : lead? d = some ⟨0, d, 0x80, 0xBF⟩ := if_pos hd

theorem lead?_two (hlow : 2 ≤ d) (hhigh : d < 32) :
    lead? (d + 192) = some ⟨1, d, 0x80, 0xBF⟩ := by
  rw [lead?, if_neg (by omega), if_neg (by omega), if_pos (by omega), Nat.add_sub_cancel]

theorem lead?_three (hd : d < 16) :
    lead? (d + 224) =
      some ⟨2, d, if d = 0 then 0xA0 else 0x80, if d = 13 then 0x9F else 0xBF⟩ := by
  rw [lead?, if_neg (by omega), if_neg (by omega), if_neg (by omega), if_pos (by omega),
    Nat.add_sub_cancel]
  simp only [Nat.add_eq_right, Nat.reduceEqDiff]

theorem lead?_four (hd : d < 5) :
    lead? (d + 240) =
      some ⟨3, d, if d = 0 then 0x90 else 0x80, if d = 4 then 0x8F else 0xBF⟩ := by
  rw [lead?, if_neg (by omega), if_neg (by omega), if_neg (by omega), if_neg (by omega),
    if_pos (by omega), Nat.add_sub_cancel]
  simp only [Nat.add_eq_right, Nat.reduceEqDiff]

theorem toNat_ofNat_add {base : Nat} (h : d + base < 256) :
    (UInt8.ofNat (d + base)).toNat = d + base := UInt8.toNat_ofNat_of_lt' h

end written

section widths

variable {n : Nat} (rest : Bytes)

theorem first_one (h : n ≤ 127) : first (UInt8.ofNat n) rest = (Char.ofNat n, rest) := by
  have hlead : lead? (UInt8.ofNat n).toNat = some ⟨0, n, 0x80, 0xBF⟩ := by
    rw [UInt8.toNat_ofNat_of_lt' (Nat.lt_of_le_of_lt h (by decide)), lead?_one (by omega)]
  exact first_of_follow hlead rfl

theorem first_two (hlow : 127 < n) (hhigh : n ≤ 2047) :
    first (UInt8.ofNat (n / 64 % 32 + 192)) (UInt8.ofNat (n % 64 + 128) :: rest) =
      (Char.ofNat n, rest) := by
  apply first_of_follow
  · rw [toNat_ofNat_add (by omega)]
    apply lead?_two
    · omega
    · omega
  · have hscalar : 64 * (n / 64 % 32) + n % 64 = n := by omega
    dsimp only
    rw [follow_cons (by omega) (by omega) (by omega), hscalar, follow]

/-- The second byte is narrowed so that no surrogate and no number below 2048 has three bytes. -/
theorem first_three (hlow : 2047 < n) (hhigh : n ≤ 65535) (hvalid : n < 0xD800 ∨ 0xDFFF < n) :
    first (UInt8.ofNat (n / 4096 % 16 + 224))
      (UInt8.ofNat (n / 64 % 64 + 128) :: UInt8.ofNat (n % 64 + 128) :: rest) =
        (Char.ofNat n, rest) := by
  apply first_of_follow
  · rw [toNat_ofNat_add (by omega)]
    apply lead?_three
    omega
  · have hscalar : 64 * (64 * (n / 4096 % 16) + n / 64 % 64) + n % 64 = n := by omega
    dsimp only
    rw [follow_cons (by omega) (by split <;> omega) (by split <;> omega),
      follow_cons (by omega) (by omega) (by omega), hscalar, follow]

theorem first_four (hlow : 65535 < n) (hhigh : n < 0x110000) :
    first (UInt8.ofNat (n / 262144 % 8 + 240))
      (UInt8.ofNat (n / 4096 % 64 + 128) :: UInt8.ofNat (n / 64 % 64 + 128) ::
        UInt8.ofNat (n % 64 + 128) :: rest) = (Char.ofNat n, rest) := by
  apply first_of_follow
  · rw [toNat_ofNat_add (by omega)]
    apply lead?_four
    omega
  · have hscalar : 64 * (64 * (64 * (n / 262144 % 8) + n / 4096 % 64) + n / 64 % 64) + n % 64 = n := by
      omega
    dsimp only
    rw [follow_cons (by omega) (by split <;> omega) (by split <;> omega),
      follow_cons (by omega) (by omega) (by omega), follow_cons (by omega) (by omega) (by omega),
      hscalar, follow]

end widths

/-- The bytes of a character are read as that character, whatever follows them. -/
theorem decode_utf8EncodeChar (c : Char) (rest : Bytes) :
    decode (String.utf8EncodeChar c ++ rest) = c :: decode rest := by
  have hvalid : c.val.toNat < 0xD800 ∨ 0xDFFF < c.val.toNat ∧ c.val.toNat < 0x110000 := c.valid
  have hchar : Char.ofNat c.val.toNat = c := Char.ofNat_toNat c
  rw [String.utf8EncodeChar]
  split
  · rename_i hone
    rw [List.cons_append, List.nil_append, decode_cons, first_one rest hone, hchar]
  · rename_i hone
    split
    · rename_i htwo
      rw [List.cons_append, List.cons_append, List.nil_append, decode_cons,
        first_two rest (by omega) htwo, hchar]
    · rename_i htwo
      split
      · rename_i hthree
        rw [List.cons_append, List.cons_append, List.cons_append, List.nil_append, decode_cons,
          first_three rest (by omega) hthree (by omega), hchar]
      · rw [List.cons_append, List.cons_append, List.cons_append, List.cons_append,
          List.nil_append, decode_cons, first_four rest (by omega) (by omega), hchar]

/-- A text that was written is read back as it was. -/
theorem decode_encode (cs : List Char) : decode (encode cs) = cs := by
  induction cs with
  | nil => rw [encode, List.flatMap_nil, decode]
  | cons c cs ih =>
    have hencode : encode (c :: cs) = String.utf8EncodeChar c ++ encode cs := rfl
    rw [hencode, decode_utf8EncodeChar, ih]

section lineFeed

theorem count_follow {more bits low high : Nat} (hlow : 128 ≤ low) (bytes : Bytes) :
    (follow more bits low high bytes).2.count 10 = bytes.count 10 := by
  induction more generalizing bits low high bytes with
  | zero => rfl
  | succ more ih =>
    cases bytes with
    | nil => rfl
    | cons b bytes =>
      rw [follow]
      split
      · rename_i hrange
        have hne : b ≠ 10 := by
          rintro rfl
          exact absurd (Nat.le_trans hlow hrange.1) (by decide)
        rw [ih (Nat.le_refl _), List.count_cons_of_ne hne]
      · rfl

theorem le_of_follow {more bits low high scalar : Nat} {bytes rest : Bytes}
    (h : follow (more + 1) bits low high bytes = (some scalar, rest)) :
    64 ^ more * (64 * bits + (low - 0x80)) ≤ scalar := by
  induction more generalizing bits low high bytes with
  | zero =>
    cases bytes with
    | nil => cases h
    | cons b bytes =>
      rw [follow] at h
      split at h
      · rename_i hrange
        simp only [follow, Prod.mk.injEq, Option.some.injEq] at h
        omega
      · cases h
  | succ more ih =>
    cases bytes with
    | nil => cases h
    | cons b bytes =>
      rw [follow] at h
      split at h
      · rename_i hrange
        have hsecond : low - 0x80 ≤ b.toNat - 0x80 := Nat.sub_le_sub_right hrange.1 _
        have hbehind := ih h
        rw [Nat.sub_self, Nat.add_zero] at hbehind
        calc 64 ^ (more + 1) * (64 * bits + (low - 0x80))
            ≤ 64 ^ (more + 1) * (64 * bits + (b.toNat - 0x80)) :=
              Nat.mul_le_mul_left _ (Nat.add_le_add_left hsecond _)
          _ = 64 ^ more * (64 * (64 * bits + (b.toNat - 0x80))) := by
              rw [Nat.pow_succ, Nat.mul_assoc]
          _ ≤ scalar := hbehind
      · cases h

theorem lead?_cases {b : Nat} {lead : Lead} (h : lead? b = some lead) :
    (b < 128 ∧ lead.more = 0 ∧ lead.bits = b) ∨
      128 ≤ b ∧ 128 ≤ lead.low ∧ ∃ more, lead.more = more + 1 ∧
        128 ≤ 64 ^ more * (64 * lead.bits + (lead.low - 0x80)) := by
  rw [lead?] at h
  split at h
  · rename_i hone
    cases h
    exact .inl ⟨hone, rfl, rfl⟩
  · rename_i hone
    apply Or.inr
    split at h
    · cases h
    · split at h
      · cases h
        exact ⟨by omega, Nat.le_refl _, 0, rfl, by dsimp only; omega⟩
      · split at h
        · cases h
          refine ⟨by omega, ?_, 1, rfl, ?_⟩
          · dsimp only
            split <;> omega
          · dsimp only
            split <;> omega
        · split at h
          · cases h
            refine ⟨by omega, ?_, 2, rfl, ?_⟩
            · dsimp only
              split <;> omega
            · dsimp only
              split <;> omega
          · cases h

theorem ofNat_ne_lineFeed {n : Nat} (h : n ≠ 10) : Char.ofNat n ≠ '\n' := by
  intro hchar
  by_cases hvalid : n.isValidChar
  · rw [Char.ofNat, dif_pos hvalid] at hchar
    exact h (congrArg Char.toNat hchar)
  · rw [Char.ofNat, dif_neg hvalid] at hchar
    exact absurd hchar (by decide)

theorem replacement_ne_lineFeed : replacement ≠ '\n' := by decide

/-- The first character is the end of a line just if the first byte is a line feed, and no line feed is
taken with it. -/
theorem first_lineFeed (b : UInt8) (rest : Bytes) :
    ((first b rest).1 = '\n' ↔ b = 10) ∧ (first b rest).2.count 10 = rest.count 10 := by
  have hwide (h : 128 ≤ b.toNat) : b ≠ 10 := by
    rintro rfl
    exact absurd h (by decide)
  rw [first]
  split
  · rename_i hlead
    have hne : b ≠ 10 := by
      rintro rfl
      cases hlead
    exact ⟨iff_of_false replacement_ne_lineFeed hne, rfl⟩
  · rename_i lead hlead
    rcases lead?_cases hlead with ⟨hone, hmore, hbits⟩ | ⟨hb, hlow, more, hmore, hscalar⟩
    · rw [hmore, hbits, follow]
      refine ⟨?_, rfl⟩
      constructor
      · intro hchar
        by_cases hnumber : b.toNat = 10
        · exact UInt8.toNat_inj.mp hnumber
        · exact absurd hchar (ofNat_ne_lineFeed hnumber)
      · rintro rfl
        rfl
    · have hcount :
          (follow lead.more lead.bits lead.low lead.high rest).2.count 10 = rest.count 10 :=
        count_follow hlow rest
      split
      · rename_i scalar behind hfollow
        rw [hfollow] at hcount
        rw [hmore] at hfollow
        have hlarge := Nat.le_trans hscalar (le_of_follow hfollow)
        exact ⟨iff_of_false (ofNat_ne_lineFeed (by omega)) (hwide hb), hcount⟩
      · rename_i behind hfollow
        rw [hfollow] at hcount
        exact ⟨iff_of_false replacement_ne_lineFeed (hwide hb), hcount⟩

theorem count_decode (bytes : Bytes) : (decode bytes).count '\n' = bytes.count 10 := by
  induction hlength : bytes.length using Nat.strongRecOn generalizing bytes with
  | ind length ih =>
    cases bytes with
    | nil => rw [decode, List.count_nil, List.count_nil]
    | cons b rest =>
      obtain ⟨hchar, hcount⟩ := first_lineFeed b rest
      have hshorter : (first b rest).2.length < length := by
        rw [← hlength]
        exact Nat.lt_succ_of_le (length_first_le b rest)
      rw [decode_cons, List.count_cons, List.count_cons, ih _ hshorter _ rfl, hcount]
      simp only [beq_iff_eq, hchar]

theorem count_encode (cs : List Char) : (encode cs).count 10 = cs.count '\n' := by
  rw [← count_decode, decode_encode]

end lineFeed

end Retrace.Utf8
