import AppLinks.Text.Utf8

/-!
# Reading what was written in UTF-8

The bytes of a character begin a character and go on it to its end, so reading the bytes of a text
gives its characters back and no ill-formed piece.

    decode? (encode cs) = some cs                     (decode?_encode)
    decode? bs = some cs → decodeLossy bs = cs        (decodeLossy_of_decode?)
-/

namespace AppLinks.Text.Utf8

/-! ## Leading bytes -/

/-- The bits that a byte leads with and the bytes that may follow it. -/
theorem lead_two {v : Nat} (hlow : 0x7f < v) (hhigh : v ≤ 0x7ff) :
    lead (v / 64 % 32 + 192) = .pending ⟨1, 0x80, 0xBF, v / 64⟩ := by
  have hb : 0xC2 ≤ v / 64 % 32 + 192 ∧ v / 64 % 32 + 192 < 0xE0 := by omega
  unfold lead
  have hvalue : v / 64 % 32 + 192 - 0xC0 = v / 64 := by omega
  rw [if_neg (by omega), if_neg (by omega), if_pos hb.2, hvalue]

theorem lead_three {v : Nat} (hlow : 0x7ff < v) (hhigh : v ≤ 0xffff)
    (hvalid : v < 0xD800 ∨ 0xDFFF < v) :
    ∃ low high, lead (v / 4096 % 16 + 224) = .pending ⟨2, low, high, v / 4096⟩ ∧
      low ≤ v / 64 % 64 + 128 ∧ v / 64 % 64 + 128 ≤ high := by
  have hb : 0xE0 ≤ v / 4096 % 16 + 224 ∧ v / 4096 % 16 + 224 < 0xF0 := by omega
  unfold lead
  rw [if_neg (by omega), if_neg (by omega), if_neg (by omega)]
  by_cases hfirst : v / 4096 % 16 + 224 = 0xE0
  · rw [if_pos hfirst]
    have hvalue : v / 4096 = 0 := by omega
    exact ⟨0xA0, 0xBF, by rw [hvalue], by omega, by omega⟩
  · rw [if_neg hfirst]
    by_cases hsurrogate : v / 4096 % 16 + 224 = 0xED
    · rw [if_pos hsurrogate]
      have hvalue : v / 4096 = 0xD := by omega
      exact ⟨0x80, 0x9F, by rw [hvalue], by omega, by omega⟩
    · have hvalue : v / 4096 % 16 + 224 - 0xE0 = v / 4096 := by omega
      rw [if_neg hsurrogate, if_pos hb.2, hvalue]
      exact ⟨0x80, 0xBF, rfl, by omega, by omega⟩

theorem lead_four {v : Nat} (hlow : 0xffff < v) (hhigh : v < 0x110000) :
    ∃ low high, lead (v / 262144 % 8 + 240) = .pending ⟨3, low, high, v / 262144⟩ ∧
      low ≤ v / 4096 % 64 + 128 ∧ v / 4096 % 64 + 128 ≤ high := by
  have hb : 0xF0 ≤ v / 262144 % 8 + 240 ∧ v / 262144 % 8 + 240 ≤ 0xF4 := by omega
  unfold lead
  rw [if_neg (by omega), if_neg (by omega), if_neg (by omega), if_neg (by omega),
    if_neg (by omega), if_neg (by omega)]
  by_cases hfirst : v / 262144 % 8 + 240 = 0xF0
  · rw [if_pos hfirst]
    have hvalue : v / 262144 = 0 := by omega
    exact ⟨0x90, 0xBF, by rw [hvalue], by omega, by omega⟩
  · rw [if_neg hfirst]
    by_cases hmiddle : v / 262144 % 8 + 240 < 0xF4
    · have hvalue : v / 262144 % 8 + 240 - 0xF0 = v / 262144 := by omega
      rw [if_pos hmiddle, hvalue]
      exact ⟨0x80, 0xBF, rfl, by omega, by omega⟩
    · have hvalue : v / 262144 = 4 := by omega
      rw [if_neg hmiddle, if_pos (by omega), hvalue]
      exact ⟨0x80, 0x8F, rfl, by omega, by omega⟩

/-! ## Following bytes -/

theorem toNat_ofNat_of_lt {b : Nat} (h : b < 256) : (UInt8.ofNat b).toNat = b := by
  rw [UInt8.toNat_ofNat']
  exact Nat.mod_eq_of_lt h

theorem advance_of_allows {p : Pending} {b : Nat} (hb : b < 256) (hlow : p.low ≤ b)
    (hhigh : b ≤ p.high) :
    advance (some p) (UInt8.ofNat b) =
      if p.owed ≤ 1 then ([some (Char.ofNat (p.push b))], none)
      else ([], some ⟨p.owed - 1, 0x80, 0xBF, p.push b⟩) := by
  have hallows : p.allows b = true := by simp [Pending.allows, hlow, hhigh]
  simp only [advance, toNat_ofNat_of_lt hb, if_pos hallows]

theorem piecesFrom_last {p : Pending} {b : Nat} (howed : p.owed = 1) (hb : b < 256)
    (hlow : p.low ≤ b) (hhigh : b ≤ p.high) (bs : List UInt8) :
    piecesFrom (some p) (UInt8.ofNat b :: bs) = some (Char.ofNat (p.push b)) :: pieces bs := by
  rw [piecesFrom_cons, advance_of_allows hb hlow hhigh, if_pos (Nat.le_of_eq howed)]
  rfl

theorem piecesFrom_next {p : Pending} {b : Nat} (howed : 1 < p.owed) (hb : b < 256)
    (hlow : p.low ≤ b) (hhigh : b ≤ p.high) (bs : List UInt8) :
    piecesFrom (some p) (UInt8.ofNat b :: bs) =
      piecesFrom (some ⟨p.owed - 1, 0x80, 0xBF, p.push b⟩) bs := by
  rw [piecesFrom_cons, advance_of_allows hb hlow hhigh, if_neg (Nat.not_le.mpr howed)]
  rfl

theorem piecesFrom_lead {b : Nat} (hb : b < 256) {p : Pending} (h : lead b = .pending p)
    (bs : List UInt8) : pieces (UInt8.ofNat b :: bs) = piecesFrom (some p) bs := by
  have hbyte : (UInt8.ofNat b).toNat = b := toNat_ofNat_of_lt hb
  simp [pieces, piecesFrom_cons, advance, hbyte, h, Lead.pieces]

/-! ## Characters and texts -/

theorem pieces_encodeChar (c : Char) (bs : List UInt8) :
    pieces (String.utf8EncodeChar c ++ bs) = some c :: pieces bs := by
  have hvalid : c.val.toNat < 0xD800 ∨ 0xDFFF < c.val.toNat ∧ c.val.toNat < 0x110000 := c.valid
  have hchar : ∀ n, n = c.val.toNat → Char.ofNat n = c := by
    rintro _ rfl
    exact Char.ofNat_toNat c
  unfold String.utf8EncodeChar
  generalize c.val.toNat = v at hvalid hchar
  dsimp only
  split
  · have hb : (UInt8.ofNat v).toNat = v := toNat_ofNat_of_lt (by omega)
    simp [pieces, piecesFrom_cons, advance, hb, lead_ascii (show v < 0x80 by omega), Lead.pieces,
      hchar v rfl]
  · split
    · rw [List.cons_append, List.cons_append, List.nil_append,
        piecesFrom_lead (by omega) (lead_two (by omega) (by omega)),
        piecesFrom_last rfl (by omega) (by dsimp only; omega) (by dsimp only; omega)]
      rw [hchar _ (by dsimp only [Pending.push]; omega)]
    · split
      · obtain ⟨low, high, hlead, hlow, hhigh⟩ :=
          lead_three (v := v) (by omega) (by omega) (by omega)
        rw [List.cons_append, List.cons_append, List.cons_append, List.nil_append,
          piecesFrom_lead (by omega) hlead,
          piecesFrom_next (by dsimp only; omega) (by omega) hlow hhigh,
          piecesFrom_last rfl (by omega) (by dsimp only; omega) (by dsimp only; omega)]
        rw [hchar _ (by dsimp only [Pending.push]; omega)]
      · obtain ⟨low, high, hlead, hlow, hhigh⟩ := lead_four (v := v) (by omega) (by omega)
        rw [List.cons_append, List.cons_append, List.cons_append, List.cons_append,
          List.nil_append, piecesFrom_lead (by omega) hlead,
          piecesFrom_next (by dsimp only; omega) (by omega) hlow hhigh,
          piecesFrom_next (by dsimp only; omega) (by omega) (by dsimp only; omega)
            (by dsimp only; omega),
          piecesFrom_last rfl (by omega) (by dsimp only; omega) (by dsimp only; omega)]
        rw [hchar _ (by dsimp only [Pending.push]; omega)]

theorem pieces_encode (cs : List Char) : pieces (encode cs) = cs.map some := by
  induction cs with
  | nil => rfl
  | cons c cs ih => rw [encode_cons, pieces_encodeChar, ih, List.map_cons]

theorem decode?_encode (cs : List Char) : decode? (encode cs) = some cs := by
  unfold decode?
  rw [pieces_encode]
  induction cs with
  | nil => rfl
  | cons c cs ih => simp [List.mapM_cons, ih]

theorem encode_eq_nil_iff (cs : List Char) : encode cs = [] ↔ cs = [] := by
  cases cs with
  | nil => simp
  | cons c cs => simp [encode_cons]

/-! ## Well-formed and ill-formed bytes -/

theorem eq_map_some_of_mapM {ps : List (Option Char)} {cs : List Char}
    (h : ps.mapM id = some cs) : ps = cs.map some := by
  induction ps generalizing cs with
  | nil =>
    cases h
    rfl
  | cons p ps ih =>
    rw [List.mapM_cons] at h
    obtain ⟨c, hp, h⟩ := Option.bind_eq_some_iff.mp h
    obtain ⟨cs', hps, h⟩ := Option.bind_eq_some_iff.mp h
    cases h
    rw [ih hps, show p = some c from hp]
    rfl

/-- Where every piece is a character, nothing is replaced. -/
theorem decodeLossy_of_decode? {bs : List UInt8} {cs : List Char} (h : decode? bs = some cs) :
    decodeLossy bs = cs := by
  unfold decodeLossy
  rw [eq_map_some_of_mapM h, List.map_map]
  exact List.map_id cs

/-- An ASCII byte is read as its character, and what stands on either side of it is read apart. -/
theorem decodeLossy_append_ascii (as : List UInt8) {b : UInt8} (hb : b.toNat < 0x80)
    (bs : List UInt8) :
    decodeLossy (as ++ b :: bs) = decodeLossy as ++ Char.ofNat b.toNat :: decodeLossy bs := by
  have hnone : ∀ q ∈ (none : Option Pending), q.Sound := fun q hq => absurd hq (by simp)
  unfold decodeLossy pieces
  rw [piecesFrom_ascii as b bs hb none hnone, List.map_append, List.map_cons]
  rfl

end AppLinks.Text.Utf8
