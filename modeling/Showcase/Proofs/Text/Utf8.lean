import Showcase.Text.Wide

/-!
# Texts that travel as UTF-8

The bytes of a text in UTF-8 are the bytes of its characters in turn, and are read back as these characters.
-/

namespace Showcase.Text

/-! ## The bytes of a text -/

theorem toList_loop_eq (bytes : ByteArray) (place : Nat) (taken : List UInt8) :
    ByteArray.toList.loop bytes place taken = taken.reverse ++ bytes.data.toList.drop place := by
  fun_induction ByteArray.toList.loop bytes place taken with
  | case1 place taken hplace ih =>
    have hbound : place < bytes.data.toList.length := by simpa using hplace
    rw [ih, List.drop_eq_getElem_cons hbound, List.reverse_cons, List.append_assoc, List.singleton_append]
    congr 2
    simp [ByteArray.get!, getElem!_pos bytes.data place hplace]
  | case2 place taken hplace =>
    rw [List.drop_eq_nil_of_le (by simpa using hplace), List.append_nil]

theorem toList_eq_data (bytes : ByteArray) : bytes.toList = bytes.data.toList := by
  rw [ByteArray.toList, toList_loop_eq]
  rfl

/-- The bytes of a text are those of its characters in turn. -/
theorem utf8Bytes_ofList (chars : List Char) :
    utf8Bytes (String.ofList chars) = chars.flatMap String.utf8EncodeChar := by
  rw [utf8Bytes, toList_eq_data, String.toUTF8_eq_toByteArray, String.toByteArray_ofList, List.utf8Encode,
    List.data_toByteArray]

/-! ## The bytes of a character -/

theorem toNat_byte {n : Nat} (h : n < 256) : (UInt8.ofNat n).toNat = n := by
  rw [UInt8.toNat_ofNat']
  exact Nat.mod_eq_of_lt h

theorem isContinuation_iff (byte : UInt8) : isContinuation byte = true ↔ 0x80 ≤ byte.toNat ∧ byte.toNat < 0xC0 := by
  simp [isContinuation, UInt8.le_iff_toNat_le, UInt8.lt_iff_toNat_lt]

/-- A second byte continues the first unless the two begin a form that is too long, half of a surrogate pair, or no
code point at all. -/
theorem mayFollow_iff (first second : UInt8) :
    mayFollow first second = true ↔ (0x80 ≤ second.toNat ∧ second.toNat < 0xC0) ∧
      (first.toNat = 0xE0 → 0xA0 ≤ second.toNat) ∧ (first.toNat = 0xED → second.toNat < 0xA0) ∧
      (first.toNat = 0xF0 → 0x90 ≤ second.toNat) ∧ (first.toNat = 0xF4 → second.toNat < 0x90) := by
  have hne : ∀ byte : UInt8, (first == byte) = false ↔ first.toNat ≠ byte.toNat := by
    simp [UInt8.toNat_inj]
  simp only [mayFollow, Bool.and_eq_true, isContinuation_iff, Bool.not_eq_true', Bool.and_eq_false_iff, hne,
    decide_eq_false_iff_not, UInt8.lt_iff_toNat_lt, ge_iff_le, UInt8.le_iff_toNat_le, UInt8.reduceToNat]
  omega

theorem scanUtf8_one {first : UInt8} (h : first.toNat < 0x80) (rest : List UInt8) :
    scanUtf8 first rest = .character (Char.ofNat first.toNat) 1 := by
  have hlt : first < 0x80 := UInt8.lt_iff_toNat_lt.mpr h
  simp [scanUtf8, hlt]

/-- A byte from 0xC2 to 0xF4 begins a form of several bytes. -/
theorem leads_of_bounds {first : UInt8} (h : 0xC2 ≤ first.toNat) (h' : first.toNat ≤ 0xF4) :
    ¬first < 0x80 ∧ ¬(decide (first < 0xC2) || decide (first > 0xF4)) = true := by
  simp only [Bool.or_eq_true, decide_eq_true_eq, gt_iff_lt, UInt8.lt_iff_toNat_lt, UInt8.reduceToNat]
  omega

theorem scanUtf8_two {first second : UInt8} (h : 0xC2 ≤ first.toNat) (h' : first.toNat < 0xE0)
    (hsecond : mayFollow first second = true) (rest : List UInt8) :
    scanUtf8 first (second :: rest) =
      .character (Char.ofNat ((first.toNat - 0xC0) * 64 + (second.toNat - 0x80))) 2 := by
  rcases leads_of_bounds (show 0xC2 ≤ first.toNat by omega) (by omega) with ⟨hone, hleads⟩
  have htwo : first < 0xE0 := UInt8.lt_iff_toNat_lt.mpr h'
  unfold scanUtf8
  rw [if_neg hone, if_neg hleads]
  dsimp only
  rw [if_neg (by simp [hsecond]), if_pos htwo]
  rfl

theorem scanUtf8_three {first second third : UInt8} (h : 0xE0 ≤ first.toNat) (h' : first.toNat < 0xF0)
    (hsecond : mayFollow first second = true) (hthird : isContinuation third = true) (rest : List UInt8) :
    scanUtf8 first (second :: third :: rest) =
      .character (Char.ofNat (((first.toNat - 0xE0) * 64 + (second.toNat - 0x80)) * 64 + (third.toNat - 0x80))) 3 := by
  rcases leads_of_bounds (show 0xC2 ≤ first.toNat by omega) (by omega) with ⟨hone, hleads⟩
  have htwo : ¬first < 0xE0 := fun hlt => Nat.not_lt.mpr h (UInt8.lt_iff_toNat_lt.mp hlt)
  have hthree : first < 0xF0 := UInt8.lt_iff_toNat_lt.mpr h'
  unfold scanUtf8
  rw [if_neg hone, if_neg hleads]
  dsimp only
  rw [if_neg (by simp [hsecond]), if_neg htwo, if_neg (by simp [hthird]), if_pos hthree]
  rfl

theorem scanUtf8_four {first second third fourth : UInt8} (h : 0xF0 ≤ first.toNat) (h' : first.toNat ≤ 0xF4)
    (hsecond : mayFollow first second = true) (hthird : isContinuation third = true)
    (hfourth : isContinuation fourth = true) (rest : List UInt8) :
    scanUtf8 first (second :: third :: fourth :: rest) =
      .character (Char.ofNat ((((first.toNat - 0xF0) * 64 + (second.toNat - 0x80)) * 64 + (third.toNat - 0x80)) * 64
        + (fourth.toNat - 0x80))) 4 := by
  rcases leads_of_bounds (show 0xC2 ≤ first.toNat by omega) (by omega) with ⟨hone, hleads⟩
  have htwo : ¬first < 0xE0 := by
    intro hlt
    have hfirst : first.toNat < 0xE0 := UInt8.lt_iff_toNat_lt.mp hlt
    omega
  have hthree : ¬first < 0xF0 := fun hlt => Nat.not_lt.mpr h (UInt8.lt_iff_toNat_lt.mp hlt)
  unfold scanUtf8
  rw [if_neg hone, if_neg hleads]
  dsimp only
  rw [if_neg (by simp [hsecond]), if_neg htwo, if_neg (by simp [hthird]), if_neg hthree, if_neg (by simp [hfourth])]
  rfl

/-- The bytes of a character stand for it, whatever follows. -/
theorem scanUtf8_encode (c : Char) (rest : List UInt8) :
    ∃ first later, String.utf8EncodeChar c = first :: later ∧
      scanUtf8 first (later ++ rest) = .character c (later.length + 1) := by
  have hvalid : c.val.toNat < 0xD800 ∨ (0xDFFF < c.val.toNat ∧ c.val.toNat < 0x110000) := c.valid
  have hchar : Char.ofNat c.val.toNat = c := Char.ofNat_toNat c
  unfold String.utf8EncodeChar
  dsimp only
  generalize c.val.toNat = v at hvalid hchar
  have hpart : ∀ {n}, n < 64 → (UInt8.ofNat (n + 0x80)).toNat = n + 0x80 := fun h => toNat_byte (by omega)
  have hmore : ∀ {n}, n < 64 → isContinuation (UInt8.ofNat (n + 0x80)) = true := by
    intro n h
    rw [isContinuation_iff, hpart h]
    omega
  -- what the later bytes carry are the digits of the code point in base 64
  have h0 := Nat.mod_lt v (show 64 > 0 by decide)
  have h1 := Nat.mod_lt (v / 64) (show 64 > 0 by decide)
  have h2 := Nat.mod_lt (v / 4096) (show 64 > 0 by decide)
  split
  · -- a code point below 0x80 is its own byte
    refine ⟨_, _, rfl, ?_⟩
    rw [List.nil_append, scanUtf8_one (by rw [toNat_byte] <;> omega), toNat_byte (by omega), hchar]
    rfl
  · split
    · have hfirst : (UInt8.ofNat (v / 64 % 32 + 0xC0)).toNat = v / 64 % 32 + 0xC0 := toNat_byte (by omega)
      refine ⟨_, _, rfl, ?_⟩
      rw [List.singleton_append, scanUtf8_two (by omega) (by omega), hfirst, hpart h0]
      · rw [show (v / 64 % 32 + 0xC0 - 0xC0) * 64 + (v % 64 + 0x80 - 0x80) = v by omega, hchar]
        rfl
      · -- only the first bytes of longer forms restrict their second bytes
        rw [mayFollow_iff, hfirst, hpart h0]
        omega
    · split
      · have hfirst : (UInt8.ofNat (v / 4096 % 16 + 0xE0)).toNat = v / 4096 % 16 + 0xE0 := toNat_byte (by omega)
        refine ⟨_, _, rfl, ?_⟩
        rw [List.cons_append, List.singleton_append, scanUtf8_three (by omega) (by omega) _ (hmore h0), hfirst,
          hpart h0, hpart h1]
        · rw [show ((v / 4096 % 16 + 0xE0 - 0xE0) * 64 + (v / 64 % 64 + 0x80 - 0x80)) * 64
            + (v % 64 + 0x80 - 0x80) = v by omega, hchar]
          rfl
        · -- the code point is at least 0x800, and it is no half of a surrogate pair
          rw [mayFollow_iff, hfirst, hpart h1]
          omega
      · have hfirst : (UInt8.ofNat (v / 262144 % 8 + 0xF0)).toNat = v / 262144 % 8 + 0xF0 := toNat_byte (by omega)
        refine ⟨_, _, rfl, ?_⟩
        rw [List.cons_append, List.cons_append, List.singleton_append,
          scanUtf8_four (by omega) (by omega) _ (hmore h1) (hmore h0), hfirst, hpart h0, hpart h1, hpart h2]
        · rw [show (((v / 262144 % 8 + 0xF0 - 0xF0) * 64 + (v / 4096 % 64 + 0x80 - 0x80)) * 64
            + (v / 64 % 64 + 0x80 - 0x80)) * 64 + (v % 64 + 0x80 - 0x80) = v by omega, hchar]
          rfl
        · -- the code point is at least 0x10000 and below 0x110000
          rw [mayFollow_iff, hfirst, hpart h2]
          omega

/-! ## Reading them back -/

theorem strictFrom_append (position : Nat) (taken rest : List UInt8) :
    strictFrom position taken.length (taken ++ rest) = strictFrom (position + taken.length) 0 rest := by
  induction taken generalizing position with
  | nil => rfl
  | cons byte taken ih =>
    rw [List.length_cons, List.cons_append, strictFrom, ih]
    congr 1
    omega

theorem strictFrom_encode (position : Nat) (chars : List Char) :
    strictFrom position 0 (chars.flatMap String.utf8EncodeChar) = .ok (chars.map Char.toNat) := by
  induction chars generalizing position with
  | nil => rfl
  | cons c chars ih =>
    rcases scanUtf8_encode c (chars.flatMap String.utf8EncodeChar) with ⟨first, later, hbytes, hscan⟩
    rw [List.flatMap_cons, hbytes, List.cons_append, strictFrom, hscan]
    dsimp only
    rw [Nat.add_sub_cancel, strictFrom_append, ih]
    rfl

/-- A text is read back from its bytes. -/
theorem strictUtf8_utf8Bytes (chars : List Char) :
    strictUtf8 (utf8Bytes (String.ofList chars)) = .ok (chars.map Char.toNat) := by
  rw [utf8Bytes_ofList, strictUtf8, strictFrom_encode]

/-- Different texts have different bytes. -/
theorem flatMap_utf8EncodeChar_injective {first second : List Char}
    (h : first.flatMap String.utf8EncodeChar = second.flatMap String.utf8EncodeChar) : first = second := by
  have hread := strictFrom_encode 0 first
  rw [h, strictFrom_encode] at hread
  exact ((List.map_inj_right fun _ _ => Char.toNat_inj.mp).mp (Except.ok.inj hread)).symm

theorem lenientFrom_append (taken rest : List UInt8) :
    lenientFrom taken.length (taken ++ rest) = lenientFrom 0 rest := by
  induction taken with
  | nil => rfl
  | cons byte taken ih => exact ih

/-- Characters at the head of bytes are read back, whatever follows them. -/
theorem lenientUtf8_append (chars : List Char) (rest : List UInt8) :
    lenientUtf8 (chars.flatMap String.utf8EncodeChar ++ rest) = chars ++ lenientUtf8 rest := by
  induction chars with
  | nil => rfl
  | cons c chars ih =>
    rcases scanUtf8_encode c (chars.flatMap String.utf8EncodeChar ++ rest) with ⟨first, later, hbytes, hscan⟩
    rw [List.flatMap_cons, hbytes, List.append_assoc, List.cons_append, lenientUtf8, lenientFrom, hscan]
    dsimp only
    rw [Nat.add_sub_cancel, lenientFrom_append, ← lenientUtf8, ih, List.cons_append]

theorem lenientUtf8_flatMap (chars : List Char) : lenientUtf8 (chars.flatMap String.utf8EncodeChar) = chars := by
  have hread := lenientUtf8_append chars []
  rwa [List.append_nil, show lenientUtf8 [] = [] from rfl, List.append_nil] at hread

/-- A text is read back from its bytes, however leniently they are read. -/
theorem lenientUtf8_utf8Bytes (s : String) : lenientUtf8 (utf8Bytes s) = s.toList := by
  rw [← lenientUtf8_flatMap s.toList, ← utf8Bytes_ofList, String.ofList_toList]

/-! ## Marks of an encoding -/

/-- Bytes that begin with a bracket or a brace, and then no zero, bear no mark of an encoding, and are in UTF-8. -/
theorem readMarked_of_bracket {first second : UInt8} (hfirst : first = 0x5B ∨ first = 0x7B) (hsecond : second ≠ 0)
    (rest : List UInt8) : readMarked (first :: second :: rest) = strictUtf8 (first :: second :: rest) := by
  have hzero : ¬(second == 0) = true := by simpa using hsecond
  -- what is known of the first byte lets every pattern be decided
  rcases hfirst with rfl | rfl
  · rcases rest with _ | ⟨third, _ | ⟨fourth, rest⟩⟩
    · exact if_neg hzero
    · rfl
    · exact if_neg hzero
  · rcases rest with _ | ⟨third, _ | ⟨fourth, rest⟩⟩
    · exact if_neg hzero
    · rfl
    · exact if_neg hzero

theorem utf8EncodeChar_of_ascii {c : Char} (hc : c.toNat < 0x80) :
    String.utf8EncodeChar c = [UInt8.ofNat c.toNat] := by
  unfold String.utf8EncodeChar
  exact if_pos (Nat.le_of_lt_succ hc)

/-- A text that begins with a bracket or a brace, and then a character of ASCII, is read back from its bytes. -/
theorem readMarked_utf8Bytes {a b : Char} (ha : a = '[' ∨ a = '\x7b') (hb : 0 < b.toNat ∧ b.toNat < 0x80)
    (rest : List Char) :
    readMarked (utf8Bytes (String.ofList (a :: b :: rest))) = .ok ((a :: b :: rest).map Char.toNat) := by
  have hascii : a.toNat < 0x80 := by
    rcases ha with rfl | rfl <;> decide
  have hbytes : utf8Bytes (String.ofList (a :: b :: rest)) =
      UInt8.ofNat a.toNat :: UInt8.ofNat b.toNat :: rest.flatMap String.utf8EncodeChar := by
    rw [utf8Bytes_ofList, List.flatMap_cons, List.flatMap_cons, utf8EncodeChar_of_ascii hascii,
      utf8EncodeChar_of_ascii hb.2]
    rfl
  rw [← strictUtf8_utf8Bytes, hbytes, readMarked_of_bracket]
  · rcases ha with rfl | rfl
    · exact .inl rfl
    · exact .inr rfl
  · intro hzero
    have hnat := congrArg UInt8.toNat hzero
    rw [toNat_byte (by omega), show (0 : UInt8).toNat = 0 from rfl] at hnat
    omega

end Showcase.Text
