import Mathlib.Data.List.Basic
import Mathlib.Data.List.TakeWhile

namespace HighperfServer.Library.Utf8

/-- The width of the sequence that a first byte announces. -/
def width (first : UInt8) : Nat :=
  if first < 0x80 then 1
  else if 0xC2 ≤ first ∧ first ≤ 0xDF then 2
  else if 0xE0 ≤ first ∧ first ≤ 0xEF then 3
  else if 0xF0 ≤ first ∧ first ≤ 0xF4 then 4
  else 0

/-- A continuation byte carries six bits. -/
def isContinuation (byte : UInt8) : Bool := 0x80 ≤ byte ∧ byte ≤ 0xBF

/-- The second byte excludes overlong forms, surrogates and values past the last scalar. -/
def isSecond (first second : UInt8) : Bool :=
  if first = 0xE0 then 0xA0 ≤ second ∧ second ≤ 0xBF
  else if first = 0xED then 0x80 ≤ second ∧ second ≤ 0x9F
  else if first = 0xF0 then 0x90 ≤ second ∧ second ≤ 0xBF
  else if first = 0xF4 then 0x80 ≤ second ∧ second ≤ 0x8F
  else isContinuation second

/-- The longest run of bytes that the rest offers to a sequence. -/
def continuations (first : UInt8) (rest : List UInt8) : List UInt8 :=
  match rest.take (width first - 1) with
  | [] => []
  | second :: others =>
      if isSecond first second then second :: others.takeWhile isContinuation else []

/-- The scalar value of a complete sequence. -/
def scalar (first : UInt8) (others : List UInt8) : Char :=
  let lead := match width first with
    | 1 => first.toNat
    | 2 => first.toNat % 0x20
    | 3 => first.toNat % 0x10
    | _ => first.toNat % 0x08
  Char.ofNat (others.foldl (fun value byte => value * 0x40 + byte.toNat % 0x40) lead)

/-- The bytes decode to characters and ill-formed subsequences, each taken as long as possible. -/
def chunks : Nat → List UInt8 → List (Option Char)
  | _, [] => []
  | skip + 1, _ :: rest => chunks skip rest
  | 0, first :: rest =>
      let others := continuations first rest
      let decoded := if others.length + 1 = width first then some (scalar first others) else none
      decoded :: chunks others.length rest

/-- `String::from_utf8` accepts only well-formed bytes. -/
def decode (bytes : List UInt8) : Option (List Char) := (chunks 0 bytes).mapM id

/-- `String::from_utf8_lossy` puts one replacement character for each ill-formed subsequence. -/
def decodeLossy (bytes : List UInt8) : List Char :=
  (chunks 0 bytes).map fun decoded => decoded.getD (Char.ofNat 0xFFFD)

/-- `str::as_bytes` encodes each character in turn. -/
def encode (text : List Char) : List UInt8 := text.flatMap String.utf8EncodeChar

theorem encode_cons (char : Char) (text : List Char) :
    encode (char :: text) = String.utf8EncodeChar char ++ encode text := List.flatMap_cons

theorem encode_append (first second : List Char) :
    encode (first ++ second) = encode first ++ encode second := List.flatMap_append

/-- A skipped stretch leaves the chunks of the rest. -/
theorem chunks_skip (others rest : List UInt8) :
    chunks others.length (others ++ rest) = chunks 0 rest := by
  induction others with
  | nil => rfl
  | cons first others ih =>
      rw [List.length_cons, List.cons_append, chunks]
      exact ih

/-- The bytes behind a first byte complete its sequence. -/
def Completes (first : UInt8) : List UInt8 → Prop
  | [] => True
  | second :: others => isSecond first second = true ∧ ∀ byte ∈ others, isContinuation byte = true

/-- The completing bytes are the continuations of the first one. -/
theorem continuations_append {first : UInt8} {others : List UInt8}
    (length : others.length + 1 = width first) (completes : Completes first others)
    (rest : List UInt8) : continuations first (others ++ rest) = others := by
  have taken : (others ++ rest).take (width first - 1) = others := by
    rw [← length, Nat.add_sub_cancel, List.take_left']
    rfl
  unfold continuations
  rw [taken]
  cases others with
  | nil => rfl
  | cons second tail =>
      dsimp only
      rw [if_pos completes.1, List.takeWhile_eq_self_iff.mpr completes.2]

/-- A complete sequence is one chunk. -/
theorem chunks_sequence (first : UInt8) (others : List UInt8)
    (length : others.length + 1 = width first) (completes : Completes first others)
    (rest : List UInt8) :
    chunks 0 (first :: others ++ rest) = some (scalar first others) :: chunks 0 rest := by
  rw [List.cons_append, chunks, continuations_append length completes, chunks_skip]
  simp only [length, if_true]

theorem toNat_ofNat {value : Nat} (bound : value < 256) : (UInt8.ofNat value).toNat = value := by
  rw [UInt8.toNat_ofNat', Nat.mod_eq_of_lt bound]

theorem val_ofNat {value : Nat} (valid : value.isValidChar) :
    (Char.ofNat value).val.toNat = value := by
  rw [Char.ofNat, dif_pos valid]
  rfl

/-- An ASCII character is one byte. -/
theorem encodeChar_ascii {char : Char} (ascii : char.val.toNat < 0x80) :
    String.utf8EncodeChar char = [UInt8.ofNat char.val.toNat] := by
  unfold String.utf8EncodeChar
  dsimp only
  rw [if_pos (by omega)]

/-- The range of a first byte decides its width. -/
theorem width_cases (first : UInt8) :
    first.toNat < 0x80 ∧ width first = 1 ∨
    (0xC2 ≤ first.toNat ∧ first.toNat ≤ 0xDF) ∧ width first = 2 ∨
    (0xE0 ≤ first.toNat ∧ first.toNat ≤ 0xEF) ∧ width first = 3 ∨
    (0xF0 ≤ first.toNat ∧ first.toNat ≤ 0xF4) ∧ width first = 4 ∨
    (0x80 ≤ first.toNat ∧ first.toNat < 0xC2 ∨ 0xF4 < first.toNat) ∧ width first = 0 := by
  simp only [width, UInt8.lt_iff_toNat_lt, UInt8.le_iff_toNat_le, UInt8.toNat_ofNat, Nat.reducePow,
    Nat.reduceMod]
  split
  · omega
  · split
    · omega
    · split
      · omega
      · split <;> omega

/-- The continuation bytes are those from 0x80 to 0xBF. -/
theorem isContinuation_iff {byte : UInt8} :
    isContinuation byte = true ↔ 0x80 ≤ byte.toNat ∧ byte.toNat ≤ 0xBF := by
  simp only [isContinuation, UInt8.le_iff_toNat_le, decide_eq_true_eq]
  rfl

/-- The second byte is a continuation byte that no leading byte excludes. -/
theorem isSecond_iff {first second : UInt8} : isSecond first second = true ↔
    0x80 ≤ second.toNat ∧ second.toNat ≤ 0xBF ∧ (first.toNat = 0xE0 → 0xA0 ≤ second.toNat) ∧
      (first.toNat = 0xED → second.toNat ≤ 0x9F) ∧ (first.toNat = 0xF0 → 0x90 ≤ second.toNat) ∧
      (first.toNat = 0xF4 → second.toNat ≤ 0x8F) := by
  simp only [isSecond, isContinuation, ← UInt8.toNat_inj, UInt8.le_iff_toNat_le, UInt8.toNat_ofNat,
    Nat.reducePow, Nat.reduceMod]
  split
  · simp only [decide_eq_true_eq]
    omega
  · split
    · simp only [decide_eq_true_eq]
      omega
    · split
      · simp only [decide_eq_true_eq]
        omega
      · split
        · simp only [decide_eq_true_eq]
          omega
        · simp only [decide_eq_true_eq]
          omega

/-- The scalar value of a character lies below the surrogates or above them. -/
theorem toNat_valid (char : Char) :
    char.val.toNat < 0xD800 ∨ 0xDFFF < char.val.toNat ∧ char.val.toNat < 0x110000 := char.valid

section Sequences
variable {value : Nat} (rest : List UInt8)

/-- A scalar of one byte is one chunk. -/
theorem chunks_one (high : value ≤ 0x7F) :
    chunks 0 ([UInt8.ofNat value] ++ rest) = some (Char.ofNat value) :: chunks 0 rest := by
  have first : (UInt8.ofNat value).toNat = value := toNat_ofNat (by omega)
  have width : width (UInt8.ofNat value) = 1 := by
    have cases := width_cases (UInt8.ofNat value)
    omega
  rw [chunks_sequence (UInt8.ofNat value) [] width.symm trivial]
  simp only [scalar, width, first, List.foldl_nil]

/-- A scalar of two bytes is one chunk. -/
theorem chunks_two (low : 0x80 ≤ value) (high : value ≤ 0x7FF) :
    chunks 0 ([UInt8.ofNat (value / 64 % 32 + 192), UInt8.ofNat (value % 64 + 128)] ++ rest) =
      some (Char.ofNat value) :: chunks 0 rest := by
  have first : (UInt8.ofNat (value / 64 % 32 + 192)).toNat = value / 64 % 32 + 192 :=
    toNat_ofNat (by omega)
  have second : (UInt8.ofNat (value % 64 + 128)).toNat = value % 64 + 128 := toNat_ofNat (by omega)
  have width : width (UInt8.ofNat (value / 64 % 32 + 192)) = 2 := by
    have cases := width_cases (UInt8.ofNat (value / 64 % 32 + 192))
    omega
  have completes : Completes (UInt8.ofNat (value / 64 % 32 + 192))
      [UInt8.ofNat (value % 64 + 128)] := by
    constructor
    · refine isSecond_iff.mpr ⟨?_, ?_, ?_, ?_, ?_, ?_⟩ <;> omega
    · exact fun _ member => absurd member List.not_mem_nil
  rw [chunks_sequence _ [_] width.symm completes]
  have total : (value / 64 % 32 + 192) % 0x20 * 0x40 + (value % 64 + 128) % 0x40 = value := by omega
  simp only [scalar, width, first, second, List.foldl_cons, List.foldl_nil, total]

/-- A scalar of three bytes is one chunk. -/
theorem chunks_three (low : 0x800 ≤ value) (high : value ≤ 0xFFFF)
    (valid : value < 0xD800 ∨ 0xDFFF < value) :
    chunks 0 ([UInt8.ofNat (value / 4096 % 16 + 224), UInt8.ofNat (value / 64 % 64 + 128),
        UInt8.ofNat (value % 64 + 128)] ++ rest) = some (Char.ofNat value) :: chunks 0 rest := by
  have first : (UInt8.ofNat (value / 4096 % 16 + 224)).toNat = value / 4096 % 16 + 224 :=
    toNat_ofNat (by omega)
  have second : (UInt8.ofNat (value / 64 % 64 + 128)).toNat = value / 64 % 64 + 128 :=
    toNat_ofNat (by omega)
  have third : (UInt8.ofNat (value % 64 + 128)).toNat = value % 64 + 128 := toNat_ofNat (by omega)
  have width : width (UInt8.ofNat (value / 4096 % 16 + 224)) = 3 := by
    have cases := width_cases (UInt8.ofNat (value / 4096 % 16 + 224))
    omega
  have completes : Completes (UInt8.ofNat (value / 4096 % 16 + 224))
      [UInt8.ofNat (value / 64 % 64 + 128), UInt8.ofNat (value % 64 + 128)] := by
    constructor
    · refine isSecond_iff.mpr ⟨?_, ?_, ?_, ?_, ?_, ?_⟩ <;> omega
    · intro byte member
      obtain rfl := List.mem_singleton.mp member
      exact isContinuation_iff.mpr (by omega)
  rw [chunks_sequence _ [_, _] width.symm completes]
  have total : ((value / 4096 % 16 + 224) % 0x10 * 0x40 + (value / 64 % 64 + 128) % 0x40) * 0x40 +
      (value % 64 + 128) % 0x40 = value := by omega
  simp only [scalar, width, first, second, third, List.foldl_cons, List.foldl_nil, total]

/-- A scalar of four bytes is one chunk. -/
theorem chunks_four (low : 0x10000 ≤ value) (high : value < 0x110000) :
    chunks 0 ([UInt8.ofNat (value / 262144 % 8 + 240), UInt8.ofNat (value / 4096 % 64 + 128),
        UInt8.ofNat (value / 64 % 64 + 128), UInt8.ofNat (value % 64 + 128)] ++ rest) =
      some (Char.ofNat value) :: chunks 0 rest := by
  have first : (UInt8.ofNat (value / 262144 % 8 + 240)).toNat = value / 262144 % 8 + 240 :=
    toNat_ofNat (by omega)
  have second : (UInt8.ofNat (value / 4096 % 64 + 128)).toNat = value / 4096 % 64 + 128 :=
    toNat_ofNat (by omega)
  have third : (UInt8.ofNat (value / 64 % 64 + 128)).toNat = value / 64 % 64 + 128 :=
    toNat_ofNat (by omega)
  have fourth : (UInt8.ofNat (value % 64 + 128)).toNat = value % 64 + 128 := toNat_ofNat (by omega)
  have width : width (UInt8.ofNat (value / 262144 % 8 + 240)) = 4 := by
    have cases := width_cases (UInt8.ofNat (value / 262144 % 8 + 240))
    omega
  have completes : Completes (UInt8.ofNat (value / 262144 % 8 + 240))
      [UInt8.ofNat (value / 4096 % 64 + 128), UInt8.ofNat (value / 64 % 64 + 128),
        UInt8.ofNat (value % 64 + 128)] := by
    constructor
    · refine isSecond_iff.mpr ⟨?_, ?_, ?_, ?_, ?_, ?_⟩ <;> omega
    · intro byte member
      rcases List.mem_cons.mp member with rfl | last
      · exact isContinuation_iff.mpr (by omega)
      · obtain rfl := List.mem_singleton.mp last
        exact isContinuation_iff.mpr (by omega)
  rw [chunks_sequence _ [_, _, _] width.symm completes]
  have total : (((value / 262144 % 8 + 240) % 0x08 * 0x40 + (value / 4096 % 64 + 128) % 0x40) *
      0x40 + (value / 64 % 64 + 128) % 0x40) * 0x40 + (value % 64 + 128) % 0x40 = value := by omega
  simp only [scalar, width, first, second, third, fourth, List.foldl_cons, List.foldl_nil, total]

end Sequences

/-- An encoded character is one chunk. -/
theorem chunks_encodeChar (char : Char) (rest : List UInt8) :
    chunks 0 (String.utf8EncodeChar char ++ rest) = some char :: chunks 0 rest := by
  have valid := toNat_valid char
  have back : Char.ofNat char.val.toNat = char := Char.ofNat_toNat char
  generalize scalar : char.val.toNat = value at valid back
  unfold String.utf8EncodeChar
  rw [scalar, ← back]
  dsimp only
  split
  · rename_i one
    exact chunks_one rest one
  · split
    · exact chunks_two rest (by omega) (by omega)
    · split
      · exact chunks_three rest (by omega) (by omega) (by omega)
      · exact chunks_four rest (by omega) (by omega)

/-- An ASCII byte occurs in the encoding of its own character only. -/
theorem eq_of_ascii_mem {char : Char} {byte : UInt8} (ascii : byte.toNat < 0x80)
    (member : byte ∈ String.utf8EncodeChar char) : char = Char.ofNat byte.toNat := by
  have high {offset : Nat} (low : 0x80 ≤ offset) (bound : offset < 256)
      (same : byte = UInt8.ofNat offset) : False := by
    rw [same, toNat_ofNat bound] at ascii
    omega
  have back : Char.ofNat char.val.toNat = char := Char.ofNat_toNat char
  generalize scalar : char.val.toNat = value at back
  unfold String.utf8EncodeChar at member
  rw [scalar] at member
  dsimp only at member
  split at member
  · rename_i one
    rw [List.mem_singleton.mp member, toNat_ofNat (by omega), back]
  · split at member
    · simp only [List.mem_cons, List.not_mem_nil, or_false] at member
      rcases member with same | same <;> exact (high (by omega) (by omega) same).elim
    · split at member
      · simp only [List.mem_cons, List.not_mem_nil, or_false] at member
        rcases member with same | same | same <;> exact (high (by omega) (by omega) same).elim
      · simp only [List.mem_cons, List.not_mem_nil, or_false] at member
        rcases member with same | same | same | same <;>
          exact (high (by omega) (by omega) same).elim

/-- An encoded text decodes chunk by chunk. -/
theorem chunks_encode (text : List Char) : chunks 0 (encode text) = text.map some := by
  induction text with
  | nil => rfl
  | cons char text ih =>
      rw [encode_cons, chunks_encodeChar, ih, List.map_cons]

/-- An ASCII byte in front of an encoded text is its first character. -/
theorem exists_of_encode_eq_cons {text : List Char} {byte : UInt8} {after : List UInt8}
    (ascii : byte.toNat < 0x80) (encoded : encode text = byte :: after) :
    ∃ rest, text = Char.ofNat byte.toNat :: rest ∧ encode rest = after := by
  cases text with
  | nil => simp [encode] at encoded
  | cons char rest =>
      refine ⟨rest, ?_⟩
      rw [encode_cons] at encoded
      have front : byte ∈ String.utf8EncodeChar char := by
        cases bytes : String.utf8EncodeChar char with
        | nil => exact absurd bytes String.utf8EncodeChar_ne_nil
        | cons first others =>
            rw [bytes, List.cons_append] at encoded
            rw [(List.cons.inj encoded).1]
            exact List.mem_cons_self
      obtain rfl := eq_of_ascii_mem ascii front
      have value : (Char.ofNat byte.toNat).val.toNat = byte.toNat := val_ofNat (.inl (by omega))
      rw [encodeChar_ascii (by omega), value, UInt8.ofNat_toNat] at encoded
      exact ⟨rfl, (List.cons.inj encoded).2⟩

/-- All parts of a list are present exactly when it is a list of present parts. -/
theorem mapM_id_eq_some_iff {A : Type} {parts : List (Option A)} {values : List A} :
    parts.mapM id = some values ↔ parts = values.map some := by
  induction parts generalizing values with
  | nil => cases values <;> simp
  | cons part parts ih =>
      cases part with
      | none => cases values <;> simp
      | some value =>
          have step : (some value :: parts).mapM id = (parts.mapM id).map (value :: ·) := by
            rw [List.mapM_cons]
            cases parts.mapM id <;> rfl
          rw [step, Option.map_eq_some_iff]
          cases values with
          | nil => simp
          | cons first rest => simp [ih, and_comm]

/-- Decoding undoes encoding. -/
theorem decode_encode (text : List Char) : decode (encode text) = some text := by
  rw [decode, chunks_encode, mapM_id_eq_some_iff]

/-- Distinct texts have distinct encodings. -/
theorem encode_injective : Function.Injective encode := by
  intro first second equal
  have decoded := congrArg decode equal
  simpa only [decode_encode, Option.some.injEq] using decoded

/-- On well-formed bytes the lossy decoder agrees with the strict one. -/
theorem decodeLossy_of_decode {bytes : List UInt8} {text : List Char}
    (decoded : decode bytes = some text) : decodeLossy bytes = text := by
  rw [decodeLossy, mapM_id_eq_some_iff.mp decoded, List.map_map]
  exact List.map_id text

/-- The bytes that complete a sequence are the first that the rest offers. -/
theorem continuations_spec (first : UInt8) (rest : List UInt8) :
    continuations first rest <+: rest ∧ Completes first (continuations first rest) := by
  unfold continuations
  have taken : rest.take (width first - 1) <+: rest := List.take_prefix _ _
  cases offered : rest.take (width first - 1) with
  | nil => exact ⟨List.nil_prefix, trivial⟩
  | cons second others =>
      dsimp only
      rw [offered] at taken
      split
      · rename_i accepted
        refine ⟨?_, accepted, fun byte member => List.mem_takeWhile_imp member⟩
        exact (List.prefix_cons_inj second |>.mpr (List.takeWhile_prefix _)).trans taken
      · exact ⟨List.nil_prefix, trivial⟩

theorem ofNat_eq_of_toNat {value : Nat} (byte : UInt8) (same : value = byte.toNat) :
    UInt8.ofNat value = byte := by
  rw [same, UInt8.ofNat_toNat]

section Scalars
variable {first second third fourth : UInt8}

/-- A one-byte sequence is the encoding of its scalar. -/
theorem encodeChar_one (high : first.toNat < 0x80) (wide : width first = 1) :
    String.utf8EncodeChar (scalar first []) = [first] := by
  have value : (Char.ofNat first.toNat).val.toNat = first.toNat := val_ofNat (.inl (by omega))
  simp only [scalar, wide, List.foldl_nil]
  rw [encodeChar_ascii (by omega), value, UInt8.ofNat_toNat]

/-- A two-byte sequence is the encoding of its scalar. -/
theorem encodeChar_two (low : 0xC2 ≤ first.toNat) (high : first.toNat ≤ 0xDF)
    (wide : width first = 2) (completes : Completes first [second]) :
    String.utf8EncodeChar (scalar first [second]) = [first, second] := by
  obtain ⟨secondLow, secondHigh, _⟩ := isSecond_iff.mp completes.1
  have valid : first.toNat % 32 * 64 + second.toNat % 64 < 0xD800 := by omega
  have value : (scalar first [second]).val.toNat = first.toNat % 32 * 64 + second.toNat % 64 := by
    simp only [scalar, wide, List.foldl_cons, List.foldl_nil]
    exact val_ofNat (.inl valid)
  simp only [String.utf8EncodeChar, value]
  rw [if_neg (by omega), if_pos (by omega), ofNat_eq_of_toNat first (by omega),
    ofNat_eq_of_toNat second (by omega)]

/-- A three-byte sequence is the encoding of its scalar. -/
theorem encodeChar_three (low : 0xE0 ≤ first.toNat) (high : first.toNat ≤ 0xEF)
    (wide : width first = 3) (completes : Completes first [second, third]) :
    String.utf8EncodeChar (scalar first [second, third]) = [first, second, third] := by
  obtain ⟨secondLow, secondHigh, overlong, surrogate, _⟩ := isSecond_iff.mp completes.1
  obtain ⟨thirdLow, thirdHigh⟩ := isContinuation_iff.mp (completes.2 third List.mem_cons_self)
  have valid : (first.toNat % 16 * 64 + second.toNat % 64) * 64 + third.toNat % 64 < 0xD800 ∨
      0xDFFF < (first.toNat % 16 * 64 + second.toNat % 64) * 64 + third.toNat % 64 ∧
        (first.toNat % 16 * 64 + second.toNat % 64) * 64 + third.toNat % 64 < 0x110000 := by
    omega
  have value : (scalar first [second, third]).val.toNat =
      (first.toNat % 16 * 64 + second.toNat % 64) * 64 + third.toNat % 64 := by
    simp only [scalar, wide, List.foldl_cons, List.foldl_nil]
    exact val_ofNat valid
  simp only [String.utf8EncodeChar, value]
  rw [if_neg (by omega), if_neg (by omega), if_pos (by omega),
    ofNat_eq_of_toNat first (by omega), ofNat_eq_of_toNat second (by omega),
    ofNat_eq_of_toNat third (by omega)]

/-- A four-byte sequence is the encoding of its scalar. -/
theorem encodeChar_four (low : 0xF0 ≤ first.toNat) (high : first.toNat ≤ 0xF4)
    (wide : width first = 4) (completes : Completes first [second, third, fourth]) :
    String.utf8EncodeChar (scalar first [second, third, fourth]) =
      [first, second, third, fourth] := by
  obtain ⟨secondLow, secondHigh, _, _, overlong, past⟩ := isSecond_iff.mp completes.1
  obtain ⟨thirdLow, thirdHigh⟩ := isContinuation_iff.mp (completes.2 third List.mem_cons_self)
  obtain ⟨fourthLow, fourthHigh⟩ :=
    isContinuation_iff.mp (completes.2 fourth (List.mem_cons_of_mem _ List.mem_cons_self))
  have above : 0xDFFF < ((first.toNat % 8 * 64 + second.toNat % 64) * 64 + third.toNat % 64) * 64 +
      fourth.toNat % 64 := by omega
  have below : ((first.toNat % 8 * 64 + second.toNat % 64) * 64 + third.toNat % 64) * 64 +
      fourth.toNat % 64 < 0x110000 := by omega
  have value : (scalar first [second, third, fourth]).val.toNat =
      ((first.toNat % 8 * 64 + second.toNat % 64) * 64 + third.toNat % 64) * 64 +
        fourth.toNat % 64 := by
    simp only [scalar, wide, List.foldl_cons, List.foldl_nil]
    exact val_ofNat (.inr ⟨above, below⟩)
  simp only [String.utf8EncodeChar, value]
  rw [if_neg (by omega), if_neg (by omega), if_neg (by omega),
    ofNat_eq_of_toNat first (by omega), ofNat_eq_of_toNat second (by omega),
    ofNat_eq_of_toNat third (by omega), ofNat_eq_of_toNat fourth (by omega)]

end Scalars

/-- A complete sequence encodes its scalar value. -/
theorem encodeChar_scalar {first : UInt8} {others : List UInt8}
    (length : others.length + 1 = width first) (completes : Completes first others) :
    String.utf8EncodeChar (scalar first others) = first :: others := by
  rcases width_cases first with ⟨high, wide⟩ | ⟨⟨low, high⟩, wide⟩ | ⟨⟨low, high⟩, wide⟩ |
    ⟨⟨low, high⟩, wide⟩ | ⟨_, wide⟩
  · obtain rfl : others = [] := List.length_eq_zero_iff.mp (by omega)
    exact encodeChar_one high wide
  · obtain ⟨second, rfl⟩ := List.length_eq_one_iff.mp (by omega : others.length = 1)
    exact encodeChar_two low high wide completes
  · obtain ⟨second, third, rfl⟩ := List.length_eq_two.mp (by omega : others.length = 2)
    exact encodeChar_three low high wide completes
  · obtain ⟨second, third, fourth, rfl⟩ := List.length_eq_three.mp (by omega : others.length = 3)
    exact encodeChar_four low high wide completes
  · omega

/-- Only the encoding of a text is read as that text. -/
theorem encode_of_chunks {bytes : List UInt8} {text : List Char}
    (read : chunks 0 bytes = text.map some) : encode text = bytes := by
  induction text generalizing bytes with
  | nil =>
      cases bytes with
      | nil => rfl
      | cons first rest => simp [chunks] at read
  | cons char text ih =>
      cases bytes with
      | nil => simp [chunks] at read
      | cons first rest =>
          obtain ⟨⟨after, whole⟩, completes⟩ := continuations_spec first rest
          rw [chunks, List.map_cons] at read
          obtain ⟨head, tail⟩ := List.cons.inj read
          obtain ⟨length, same⟩ := Option.ite_none_right_eq_some.mp head
          obtain rfl := Option.some.inj same
          rw [← whole, continuations_append length completes, chunks_skip] at tail
          rw [encode_cons, encodeChar_scalar length completes, ih tail, List.cons_append, whole]

/-- A text is decoded exactly from its encoding. -/
theorem decode_eq_some_iff {bytes : List UInt8} {text : List Char} :
    decode bytes = some text ↔ encode text = bytes := by
  constructor
  · intro decoded
    exact encode_of_chunks (mapM_id_eq_some_iff.mp decoded)
  · rintro rfl
    exact decode_encode text

/-- A continuation byte without a first byte is ill-formed by itself. -/
theorem chunks_continuation {byte : UInt8} (continues : isContinuation byte = true)
    (rest : List UInt8) : chunks 0 (byte :: rest) = none :: chunks 0 rest := by
  have range := isContinuation_iff.mp continues
  have narrow : width byte = 0 := by
    have cases := width_cases byte
    omega
  simp [chunks, continuations, narrow]

/-- Each stray continuation byte is a chunk of its own. -/
theorem length_chunks_append {others : List UInt8}
    (continues : ∀ byte ∈ others, isContinuation byte = true) (rest : List UInt8) :
    (chunks 0 (others ++ rest)).length = others.length + (chunks 0 rest).length := by
  induction others with
  | nil => simp
  | cons byte others ih =>
      have tail := ih fun other member => continues other (List.mem_cons_of_mem _ member)
      rw [List.cons_append, chunks_continuation (continues byte List.mem_cons_self),
        List.length_cons, List.length_cons, tail]
      omega

/-- One more byte in front makes at most one more chunk. -/
theorem length_chunks_cons_le (first : UInt8) (rest : List UInt8) :
    (chunks 0 (first :: rest)).length ≤ (chunks 0 rest).length + 1 := by
  obtain ⟨⟨after, whole⟩, completes⟩ := continuations_spec first rest
  have continues : ∀ byte ∈ continuations first rest, isContinuation byte = true := by
    intro byte member
    cases offered : continuations first rest with
    | nil =>
        rw [offered] at member
        exact absurd member List.not_mem_nil
    | cons second others =>
        rw [offered] at member completes
        rcases List.mem_cons.mp member with rfl | later
        · have range := isSecond_iff.mp completes.1
          exact isContinuation_iff.mpr ⟨range.1, range.2.1⟩
        · exact completes.2 byte later
  have skipped : chunks (continuations first rest).length rest = chunks 0 after := by
    rw [← chunks_skip (continuations first rest) after, whole]
  have total := length_chunks_append continues after
  rw [whole] at total
  rw [chunks, List.length_cons, skipped]
  omega

end HighperfServer.Library.Utf8
