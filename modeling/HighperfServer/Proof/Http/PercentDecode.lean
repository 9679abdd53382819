import HighperfServer.Proof.Http.Forms

namespace HighperfServer
open Library

/-- Bytes other than the percent sign stand for themselves. -/
theorem percentDecodeBytes_append {bytes : Bytes} (plain : 0x25 ∉ bytes) (rest : Bytes) :
    percentDecodeBytes (bytes ++ rest) = bytes ++ percentDecodeBytes rest := by
  induction bytes with
  | nil => rfl
  | cons byte bytes ih =>
      rw [List.mem_cons, not_or] at plain
      rw [List.cons_append, percentDecodeBytes_plain (Ne.symm plain.1), ih plain.2]
      rfl

/-- Only the percent sign has its byte. -/
theorem percent_not_mem_encodeChar {char : Char} (different : char ≠ '%') :
    0x25 ∉ String.utf8EncodeChar char := by
  intro member
  exact different (Utf8.eq_of_ascii_mem (by decide) member)

/-- A byte stands for itself unless it is a percent sign with two bytes behind it. -/
theorem percentDecodeBytes_keep {byte : UInt8} {rest : Bytes}
    (kept : ¬ (byte = 0x25 ∧ 2 ≤ rest.length)) :
    percentDecodeBytes (byte :: rest) = byte :: percentDecodeBytes rest := by
  by_cases percent : byte = 0x25
  · rw [percent]
    apply percentDecodeBytes_malformed
    cases read : afterPercentSign rest with
    | none => rfl
    | some decoded =>
        obtain ⟨high, low, after, _, _, rfl, _⟩ := afterPercentSign_eq_some_iff.mp read
        refine absurd ⟨percent, ?_⟩ kept
        simp only [List.length_cons]
        omega
  · exact percentDecodeBytes_plain percent rest

/-- A percent sign with two bytes behind it is an escape when both are digits. -/
theorem percentDecodeBytes_percent (high low : UInt8) (rest : Bytes) :
    percentDecodeBytes (0x25 :: high :: low :: rest) =
      match hexDigit high, hexDigit low with
      | some upper, some lower => ((upper <<< 4) ||| lower) :: percentDecodeBytes rest
      | _, _ => 0x25 :: percentDecodeBytes (high :: low :: rest) := by
  rw [percentDecodeBytes.eq_def]
  rfl

/-- No index of the loop is out of bounds, and the loop appends the decoded rest to its output. -/
theorem percentDecodeLoop_eq (bytes : Bytes) (i : Nat) (out : Bytes) :
    percentDecodeLoop bytes i out = some (out ++ percentDecodeBytes (bytes.drop i)) := by
  induction remaining : bytes.length - i using Nat.strong_induction_on generalizing i out with
  | _ count ih =>
      rw [percentDecodeLoop]
      by_cases inside : i < bytes.length
      · have here : bytes[i]? = some bytes[i] := List.getElem?_eq_getElem inside
        have split : bytes.drop i = bytes[i] :: bytes.drop (i + 1) := List.drop_eq_getElem_cons inside
        have kept : percentDecodeLoop bytes (i + 1) (out ++ [bytes[i]]) =
            some (out ++ bytes[i] :: percentDecodeBytes (bytes.drop (i + 1))) := by
          rw [ih _ (by omega) _ _ rfl, List.append_assoc, List.singleton_append]
        rw [if_pos inside, here, split]
        by_cases escape : bytes[i] = 0x25 ∧ i + 2 < bytes.length
        · obtain ⟨percent, room⟩ := escape
          have second : bytes[i + 1]? = some bytes[i + 1] := List.getElem?_eq_getElem (by omega)
          have third : bytes[i + 2]? = some bytes[i + 2] := List.getElem?_eq_getElem room
          have rest : bytes.drop (i + 1) = bytes[i + 1] :: bytes[i + 2] :: bytes.drop (i + 3) := by
            rw [List.drop_eq_getElem_cons (by omega), List.drop_eq_getElem_cons room]
          have decoded (byte : UInt8) : percentDecodeLoop bytes (i + 3) (out ++ [byte]) =
              some (out ++ byte :: percentDecodeBytes (bytes.drop (i + 3))) := by
            rw [ih _ (by omega) _ _ rfl, List.append_assoc, List.singleton_append]
          simp only [Option.bind_eq_bind, Option.bind_some, if_pos (And.intro percent room), second,
            third, kept]
          rw [percent, rest, percentDecodeBytes_percent]
          cases hexDigit bytes[i + 1] with
          | none => rfl
          | some upper =>
              cases hexDigit bytes[i + 2] with
              | none => rfl
              | some lower => exact decoded _
        · have short : ¬ (bytes[i] = 0x25 ∧ 2 ≤ (bytes.drop (i + 1)).length) := by
            rintro ⟨percent, two⟩
            rw [List.length_drop] at two
            exact escape ⟨percent, by omega⟩
          simp only [Option.bind_eq_bind, Option.bind_some, if_neg escape, kept]
          rw [percentDecodeBytes_keep short]
      · rw [if_neg inside, List.drop_eq_nil_of_le (not_lt.mp inside)]
        simp [percentDecodeBytes]

/-- The bytes with each escape replaced by its byte and all others kept. -/
inductive Unescaped : Bytes → Bytes → Prop where
  | nil : Unescaped [] []
  | escape {high low upper lower : UInt8} {rest out : Bytes} (first : hexDigit high = some upper)
      (second : hexDigit low = some lower) (later : Unescaped rest out) :
      Unescaped (0x25 :: high :: low :: rest) ((upper * 0x10 + lower) :: out)
  | keep {byte : UInt8} {rest out : Bytes} (plain : byte = 0x25 → afterPercentSign rest = none)
      (later : Unescaped rest out) : Unescaped (byte :: rest) (byte :: out)

/-- The loop computes the unescaped bytes. -/
theorem percentDecodeBytes_of_unescaped {bytes out : Bytes} (unescaped : Unescaped bytes out) :
    percentDecodeBytes bytes = out := by
  induction unescaped with
  | nil => rfl
  | escape first second later ih =>
      rw [percentDecodeBytes_escape first second, ih,
        shift_or_eq (hexDigit_lt first) (hexDigit_lt second)]
  | @keep byte rest out plain later ih =>
      by_cases percent : byte = 0x25
      · rw [percent, percentDecodeBytes_malformed (plain percent), ih]
      · rw [percentDecodeBytes_plain percent, ih]

/-- The loop replaces the escapes and nothing else. -/
theorem unescaped_percentDecodeBytes (bytes : Bytes) :
    Unescaped bytes (percentDecodeBytes bytes) := by
  induction length : bytes.length using Nat.strong_induction_on generalizing bytes with
  | _ count ih =>
      cases bytes with
      | nil => exact .nil
      | cons byte rest =>
          rw [List.length_cons] at length
          have tail := ih rest.length (by omega) rest rfl
          by_cases percent : byte = 0x25
          · subst percent
            cases read : afterPercentSign rest with
            | none =>
                rw [percentDecodeBytes_malformed read]
                exact .keep (fun _ => read) tail
            | some decoded =>
                obtain ⟨high, low, after, upper, lower, rfl, first, second, rfl⟩ :=
                  afterPercentSign_eq_some_iff.mp read
                rw [percentDecodeBytes_escape first second,
                  shift_or_eq (hexDigit_lt first) (hexDigit_lt second)]
                simp only [List.length_cons] at length
                exact .escape first second (ih after.length (by omega) after rfl)
          · rw [percentDecodeBytes_plain percent]
            exact .keep (fun same => absurd same percent) tail

/-- A hexadecimal digit is an ASCII byte. -/
theorem hexDigit_ascii {byte upper : UInt8} (digit : hexDigit byte = some upper) :
    byte.toNat < 0x80 := by
  unfold hexDigit at digit
  simp only [UInt8.le_iff_toNat_le, UInt8.toNat_ofNat, Nat.reducePow, Nat.reduceMod] at digit
  split at digit
  · omega
  · split at digit
    · omega
    · have bounds := (Option.ite_none_right_eq_some.mp digit).1
      omega

/-- The chunks of a decoded text are at most its characters, and fewer when an escape is replaced. -/
structure ChunksBounded (text : Str) : Prop where
  atMost : (Utf8.chunks 0 (percentDecodeBytes (Utf8.encode text))).length ≤ text.length
  fewer : percentDecodeBytes (Utf8.encode text) ≠ Utf8.encode text →
    (Utf8.chunks 0 (percentDecodeBytes (Utf8.encode text))).length < text.length

namespace ChunksBounded

theorem of_lt {text : Str}
    (less : (Utf8.chunks 0 (percentDecodeBytes (Utf8.encode text))).length < text.length) :
    ChunksBounded text := ⟨less.le, fun _ => less⟩

/-- A character that stands for itself is one chunk. -/
theorem keep {char : Char} {rest : Str} (bounded : ChunksBounded rest)
    (kept : percentDecodeBytes (Utf8.encode (char :: rest)) =
      String.utf8EncodeChar char ++ percentDecodeBytes (Utf8.encode rest)) :
    ChunksBounded (char :: rest) := by
  have one : (Utf8.chunks 0 (percentDecodeBytes (Utf8.encode (char :: rest)))).length =
      (Utf8.chunks 0 (percentDecodeBytes (Utf8.encode rest))).length + 1 := by
    rw [kept, Utf8.chunks_encodeChar, List.length_cons]
  constructor
  · rw [one, List.length_cons]
    exact Nat.succ_le_succ bounded.atMost
  · intro changed
    have tail : percentDecodeBytes (Utf8.encode rest) ≠ Utf8.encode rest := by
      intro same
      rw [kept, same] at changed
      exact changed rfl
    rw [one, List.length_cons]
    exact Nat.succ_lt_succ (bounded.fewer tail)

/-- An escape is three characters and adds at most one chunk. -/
theorem escape {rest : Str} {high low upper lower : UInt8} (bounded : ChunksBounded rest)
    (first : hexDigit high = some upper) (second : hexDigit low = some lower)
    {text : Str} (encoded : Utf8.encode text = 0x25 :: high :: low :: Utf8.encode rest)
    (longer : rest.length + 1 < text.length) : ChunksBounded text := by
  apply of_lt
  rw [encoded, percentDecodeBytes_escape first second]
  have added := Utf8.length_chunks_cons_le ((upper <<< 4) ||| lower)
    (percentDecodeBytes (Utf8.encode rest))
  have atMost := bounded.atMost
  omega

end ChunksBounded

/-- Decoding never makes a text longer. -/
theorem chunksBounded (text : Str) : ChunksBounded text := by
  induction size : text.length using Nat.strong_induction_on generalizing text with
  | _ count ih =>
      cases text with
      | nil => constructor <;> simp [Utf8.encode, percentDecodeBytes, Utf8.chunks]
      | cons char rest =>
          rw [List.length_cons] at size
          have tail := ih rest.length (by omega) rest rfl
          by_cases percent : char = '%'
          · subst percent
            cases read : afterPercentSign (Utf8.encode rest) with
            | none => exact tail.keep (percentDecodeBytes_malformed read)
            | some decoded =>
                obtain ⟨high, low, after, upper, lower, split, first, second, _⟩ :=
                  afterPercentSign_eq_some_iff.mp read
                obtain ⟨behind, rfl, lowFirst⟩ :=
                  Utf8.exists_of_encode_eq_cons (hexDigit_ascii first) split
                obtain ⟨others, rfl, rfl⟩ :=
                  Utf8.exists_of_encode_eq_cons (hexDigit_ascii second) lowFirst
                simp only [List.length_cons] at size
                have bounded := ih others.length (by omega) others rfl
                have encoded : Utf8.encode ('%' :: Char.ofNat high.toNat :: Char.ofNat low.toNat ::
                    others) = 0x25 :: high :: low :: Utf8.encode others :=
                  congrArg (0x25 :: ·) split
                apply bounded.escape first second encoded
                simp only [List.length_cons]
                omega
          · exact tail.keep (percentDecodeBytes_append (percent_not_mem_encodeChar percent) _)

/-- Bytes that are no UTF-8 change the text. -/
theorem percentDecode_ne_self {text : Str}
    (illFormed : ∀ decoded,
      Utf8.encode decoded ≠ percentDecodeBytes (Utf8.encode (plusToSpace text))) :
    percentDecode text ≠ text := by
  intro result
  have failed : Utf8.decode (percentDecodeBytes (Utf8.encode (plusToSpace text))) = none := by
    apply Option.eq_none_iff_forall_ne_some.mpr
    intro decoded read
    exact illFormed decoded (Utf8.decode_eq_some_iff.mp read)
  have fewer := (chunksBounded (plusToSpace text)).fewer (illFormed _).symm
  have length := congrArg List.length result
  rw [percentDecode, failed, Option.getD_none, Utf8.decodeLossy, List.length_map] at length
  have size : (plusToSpace text).length = text.length := List.length_map _
  omega

/-- The result is the decoded text when the unescaped bytes are UTF-8, and the original otherwise. -/
def PassesThrough (text result : Str) : Prop :=
  ∀ out, Unescaped (Utf8.encode (plusToSpace text)) out →
    (∀ decoded, Utf8.encode decoded = out → result = decoded) ∧
      ((∀ decoded, Utf8.encode decoded ≠ out) → result = text)

/-- The decoder passes its input through exactly when it has nothing to pass through, and it never
reads past the end. -/
theorem passesThrough_iff_utf8 (text : Str) :
    (PassesThrough text (percentDecode text) ↔
      ∃ decoded, Unescaped (Utf8.encode (plusToSpace text)) (Utf8.encode decoded)) ∧
    percentDecodeLoop (Utf8.encode (plusToSpace text)) 0 [] =
      some (percentDecodeBytes (Utf8.encode (plusToSpace text))) := by
  have unescaped := unescaped_percentDecodeBytes (Utf8.encode (plusToSpace text))
  refine ⟨⟨?_, ?_⟩, percentDecodeLoop_eq _ 0 []⟩
  · intro passes
    by_contra invalid
    have illFormed (decoded : Str) :
        Utf8.encode decoded ≠ percentDecodeBytes (Utf8.encode (plusToSpace text)) := by
      intro same
      exact invalid ⟨decoded, same ▸ unescaped⟩
    exact percentDecode_ne_self illFormed ((passes _ unescaped).2 illFormed)
  · rintro ⟨decoded, read⟩ out same
    have bytes := percentDecodeBytes_of_unescaped read
    have outBytes := percentDecodeBytes_of_unescaped same
    have result : percentDecode text = decoded := by
      rw [percentDecode, bytes, Utf8.decode_encode, Option.getD_some]
    rw [bytes] at outBytes
    subst outBytes
    constructor
    · intro other encoded
      rw [result]
      exact (Utf8.encode_injective encoded).symm
    · intro illFormed
      exact absurd rfl (illFormed decoded)

/-- An escaped byte that is no UTF-8 comes back as the replacement character. -/
theorem percentDecode_replaces :
    percentDecode "%FF".toList = [Char.ofNat 0xFFFD] ∧
      ¬ PassesThrough "%FF".toList (percentDecode "%FF".toList) := by
  have result : percentDecode "%FF".toList = [Char.ofNat 0xFFFD] := by decide
  refine ⟨result, ?_⟩
  intro passes
  have bytes : percentDecodeBytes (Utf8.encode (plusToSpace "%FF".toList)) = [0xFF] := by decide
  have unescaped := unescaped_percentDecodeBytes (Utf8.encode (plusToSpace "%FF".toList))
  rw [bytes] at unescaped
  have illFormed (decoded : Str) : Utf8.encode decoded ≠ [0xFF] := by
    rw [Ne, ← Utf8.decode_eq_some_iff, show Utf8.decode [0xFF] = none by decide]
    simp
  have same := (passes _ unescaped).2 illFormed
  rw [result] at same
  exact absurd same (by decide)

end HighperfServer
