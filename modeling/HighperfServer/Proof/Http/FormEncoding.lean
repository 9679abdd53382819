import HighperfServer.Proof.Http.PercentDecode
import Mathlib.Data.List.Forall2

namespace HighperfServer
open Library

/-- The character is the hexadecimal digit of the value, in either case. -/
def IsHexDigit (value : Nat) (char : Char) : Prop :=
  "0123456789abcdef".toList[value]? = some char ∨ "0123456789ABCDEF".toList[value]? = some char

/-- Every byte is sent as a percent sign and its two hexadecimal digits. -/
inductive Escaped : Bytes → Str → Prop where
  | nil : Escaped [] []
  | cons {byte : UInt8} {high low : Char} {bytes : Bytes} {text : Str}
      (first : IsHexDigit (byte.toNat / 16) high) (second : IsHexDigit (byte.toNat % 16) low)
      (rest : Escaped bytes text) : Escaped (byte :: bytes) ('%' :: high :: low :: text)

/-- A text is sent character by character.

A plain character may stand for itself, a blank may be a plus, and the UTF-8 bytes of any character
may be escaped. -/
inductive Encoded (plain : Char → Bool) : Str → Str → Prop where
  | nil : Encoded plain [] []
  | literal {char : Char} {text sent : Str} (allowed : plain char = true)
      (rest : Encoded plain text sent) : Encoded plain (char :: text) (char :: sent)
  | plus {text sent : Str} (rest : Encoded plain text sent) :
      Encoded plain (' ' :: text) ('+' :: sent)
  | escaped {char : Char} {escape text sent : Str}
      (bytes : Escaped (String.utf8EncodeChar char) escape) (rest : Encoded plain text sent) :
      Encoded plain (char :: text) (escape ++ sent)

/-- The characters that a key may send unescaped. -/
def plainInKey (char : Char) : Bool := char ∉ ['%', '+', '&', '=', ' ']

/-- The characters that a value may send unescaped. -/
def plainInValue (char : Char) : Bool := char ∉ ['%', '+', '&', ' ']

/-- The sent key and value encode the pair. -/
def SentAs (pair sent : Str × Str) : Prop :=
  Encoded plainInKey pair.1 sent.1 ∧ Encoded plainInValue pair.2 sent.2

/-- The form joins the sent pairs by ampersands. -/
def formText (sent : List (Str × Str)) : Str :=
  ['&'].intercalate (sent.map fun pair => pair.1 ++ '=' :: pair.2)

/-- The digit is one byte with the digit's value, and it separates nothing. -/
theorem IsHexDigit.spec {value : Nat} {char : Char} (digit : IsHexDigit value char) :
    ∃ byte, String.utf8EncodeChar char = [byte] ∧ hexDigit byte = some (UInt8.ofNat value) ∧
      char ∉ ['+', '/', '&', '='] := by
  have checked (digits : Str)
      (all : (digits.zipIdx.all fun entry =>
        String.utf8EncodeChar entry.1 = [UInt8.ofNat entry.1.toNat] ∧
          hexDigit (UInt8.ofNat entry.1.toNat) = some (UInt8.ofNat entry.2) ∧
            entry.1 ∉ ['+', '/', '&', '=']) = true)
      (found : digits[value]? = some char) :
      ∃ byte, String.utf8EncodeChar char = [byte] ∧ hexDigit byte = some (UInt8.ofNat value) ∧
        char ∉ ['+', '/', '&', '='] := by
    have member : (char, value) ∈ digits.zipIdx := List.mem_zipIdx_iff_getElem?.mpr found
    have facts := of_decide_eq_true (List.all_eq_true.mp all _ member)
    exact ⟨_, facts⟩
  rcases digit with lower | upper
  · exact checked _ (by decide) lower
  · exact checked _ (by decide) upper

theorem plusToSpace_append (first second : Str) :
    plusToSpace (first ++ second) = plusToSpace first ++ plusToSpace second := List.map_append

/-- A text without a plus is left as it is. -/
theorem plusToSpace_of_not_mem {text : Str} (clean : '+' ∉ text) : plusToSpace text = text := by
  have same (char : Char) (member : char ∈ text) : (if char = '+' then ' ' else char) = id char := by
    have different : char ≠ '+' := by
      intro plus
      rw [plus] at member
      exact clean member
    rw [if_neg different]
    rfl
  rw [plusToSpace, List.map_congr_left same, List.map_id]

section Escapes
variable {bytes : Bytes} {escape : Str}

/-- An escaped text contains none of the separators. -/
theorem Escaped.not_mem (escaped : Escaped bytes escape) {stop : Char}
    (separates : stop ∈ ['+', '/', '&', '=']) : stop ∉ escape := by
  induction escaped with
  | nil => exact List.not_mem_nil
  | cons first second rest ih =>
      obtain ⟨_, _, _, high⟩ := first.spec
      obtain ⟨_, _, _, low⟩ := second.spec
      intro member
      rcases List.mem_cons.mp member with percent | later
      · subst percent
        exact absurd separates (by decide)
      · rcases List.mem_cons.mp later with same | later
        · exact high (same ▸ separates)
        · rcases List.mem_cons.mp later with same | later
          · exact low (same ▸ separates)
          · exact ih later

/-- Escaped bytes are decoded one after the other. -/
theorem Escaped.decode (escaped : Escaped bytes escape) (rest : Bytes) :
    percentDecodeBytes (Utf8.encode escape ++ rest) = bytes ++ percentDecodeBytes rest := by
  induction escaped with
  | nil => rfl
  | @cons byte high low bytes text first second others ih =>
      obtain ⟨upper, oneHigh, highValue, _⟩ := first.spec
      obtain ⟨lower, oneLow, lowValue, _⟩ := second.spec
      have bound := byte.toNat_lt
      have highNat := Utf8.toNat_ofNat (show byte.toNat / 16 < 256 by omega)
      have lowNat := Utf8.toNat_ofNat (show byte.toNat % 16 < 256 by omega)
      have joined : (UInt8.ofNat (byte.toNat / 16) <<< 4) ||| UInt8.ofNat (byte.toNat % 16) =
          byte := by
        rw [shift_or_eq (by omega) (by omega)]
        apply UInt8.toNat_inj.mp
        rw [UInt8.toNat_add, UInt8.toNat_mul, highNat, lowNat]
        simp only [UInt8.toNat_ofNat, Nat.reducePow, Nat.reduceMod]
        omega
      have sent : Utf8.encode ('%' :: high :: low :: text) ++ rest =
          0x25 :: upper :: lower :: (Utf8.encode text ++ rest) := by
        simp only [Utf8.encode_cons, oneHigh, oneLow]
        rfl
      rw [sent, percentDecodeBytes_escape highValue lowValue, joined, ih]
      rfl

end Escapes

section Texts
variable {plain : Char → Bool} {text sent : Str}

/-- A separator that is not plain does not occur in a sent text. -/
theorem Encoded.not_mem (encoded : Encoded plain text sent) {stop : Char}
    (separates : stop ∈ ['&', '=']) (reserved : plain stop = false) : stop ∉ sent := by
  induction encoded with
  | nil => exact List.not_mem_nil
  | literal allowed rest ih =>
      intro member
      rcases List.mem_cons.mp member with same | later
      · rw [same, allowed] at reserved
        exact absurd reserved (by simp)
      · exact ih later
  | plus rest ih =>
      intro member
      rcases List.mem_cons.mp member with same | later
      · subst same
        exact absurd separates (by decide)
      · exact ih later
  | escaped bytes rest ih =>
      intro member
      rcases List.mem_append.mp member with early | later
      · exact bytes.not_mem (List.mem_cons_of_mem _ (List.mem_cons_of_mem _ separates)) early
      · exact ih later

/-- The decoder recovers the bytes of the text. -/
theorem Encoded.decode_bytes (encoded : Encoded plain text sent) (percent : plain '%' = false)
    (plus : plain '+' = false) :
    percentDecodeBytes (Utf8.encode (plusToSpace sent)) = Utf8.encode text := by
  induction encoded with
  | nil => rfl
  | @literal char text sent allowed rest ih =>
      have notPlus : char ≠ '+' := by
        intro same
        rw [same, plus] at allowed
        exact absurd allowed (by simp)
      have notPercent : char ≠ '%' := by
        intro same
        rw [same, percent] at allowed
        exact absurd allowed (by simp)
      rw [plusToSpace, List.map_cons, if_neg notPlus, ← plusToSpace, Utf8.encode_cons,
        percentDecodeBytes_append (percent_not_mem_encodeChar notPercent), ih]
      rfl
  | @plus text sent rest ih =>
      have blank : plusToSpace ('+' :: sent) = ' ' :: plusToSpace sent := rfl
      rw [blank, Utf8.encode_cons,
        percentDecodeBytes_append (percent_not_mem_encodeChar (by decide)), ih]
      rfl
  | @escaped char escape text sent bytes rest ih =>
      have same : plusToSpace escape = escape := plusToSpace_of_not_mem (bytes.not_mem (by simp))
      rw [plusToSpace_append, same, Utf8.encode_append, bytes.decode, ih]
      rfl

/-- Percent-decoding undoes every encoding of a text. -/
theorem Encoded.percentDecode (encoded : Encoded plain text sent) (percent : plain '%' = false)
    (plus : plain '+' = false) : percentDecode sent = text := by
  unfold HighperfServer.percentDecode
  rw [encoded.decode_bytes percent plus]
  dsimp only
  rw [Utf8.decode_encode]
  rfl

end Texts

/-- The value that the pairs give to the key. -/
def valueOf (key : Str) (pairs : List (Str × Str)) : Option Str :=
  pairs.findSome? fun pair => if pair.1 = key then some pair.2 else none

/-- Every pair with the key is sent with the key unescaped. -/
def SentUnescaped (key : Str) (pairs sent : List (Str × Str)) : Prop :=
  ∀ entry ∈ pairs.zip sent, entry.1.1 = key → entry.2.1 = key

instance (key : Str) (pairs sent : List (Str × Str)) : Decidable (SentUnescaped key pairs sent) :=
  inferInstanceAs (Decidable (∀ entry ∈ pairs.zip sent, entry.1.1 = key → entry.2.1 = key))

section Pairs
variable {pair sent : Str × Str}

/-- A sent pair splits at the equals sign that joins it. -/
theorem SentAs.splitOnce (encoded : SentAs pair sent) :
    splitOnce '=' (sent.1 ++ '=' :: sent.2) = some sent :=
  splitOnce_append_cons (encoded.1.not_mem (by simp) (by decide)) sent.2

/-- A sent pair contains no ampersand. -/
theorem SentAs.separated (encoded : SentAs pair sent) : '&' ∉ sent.1 ++ '=' :: sent.2 := by
  intro member
  rcases List.mem_append.mp member with key | rest
  · exact encoded.1.not_mem (by simp) (by decide) key
  · rcases List.mem_cons.mp rest with equals | value
    · exact absurd equals (by decide)
    · exact encoded.2.not_mem (by simp) (by decide) value

/-- A lookup finds the pair under its key with its value. -/
theorem SentAs.foundValue (encoded : SentAs pair sent) (key : Str) :
    foundValue key (sent.1 ++ '=' :: sent.2) = if pair.1 = key then some pair.2 else none := by
  unfold HighperfServer.foundValue splitPair
  rw [encoded.splitOnce, Option.getD_some, encoded.1.percentDecode (by decide) (by decide),
    encoded.2.percentDecode (by decide) (by decide)]

/-- The form loop binds the pair under its key, when that is sent unescaped. -/
theorem SentAs.boundValue (encoded : SentAs pair sent) {key : Str}
    (plain : percentDecode key = key) (unescaped : pair.1 = key → sent.1 = key) :
    boundValue key (sent.1 ++ '=' :: sent.2) = if pair.1 = key then some pair.2 else none := by
  have same : sent.1 = key ↔ pair.1 = key := by
    constructor
    · intro spelled
      have decoded := encoded.1.percentDecode (by decide) (by decide)
      rw [spelled, plain] at decoded
      exact decoded.symm
    · exact unescaped
  unfold HighperfServer.boundValue
  rw [encoded.splitOnce, Option.bind_some]
  simp only [same, encoded.2.percentDecode (show plainInValue '%' = false by decide)
    (show plainInValue '+' = false by decide)]

end Pairs

section Forms
variable {pairs sent : List (Str × Str)}

/-- No part of a form contains the separator of its parts. -/
theorem separated_formText (encoded : List.Forall₂ SentAs pairs sent) :
    ∀ part ∈ sent.map (fun pair => pair.1 ++ '=' :: pair.2), '&' ∉ part := by
  induction encoded with
  | nil => exact fun _ member => absurd member List.not_mem_nil
  | cons first rest ih =>
      intro part member
      rcases List.mem_cons.mp member with rfl | later
      · exact first.separated
      · exact ih part later

/-- The ampersands of a form separate its pairs. -/
theorem splitOn_formText (encoded : List.Forall₂ SentAs pairs sent) (filled : sent ≠ []) :
    (formText sent).splitOn '&' = sent.map fun pair => pair.1 ++ '=' :: pair.2 := by
  apply List.splitOn_intercalate
  · exact separated_formText encoded
  · simpa using filled

/-- A search that answers each sent pair by the key of its pair answers the form by the pairs. -/
theorem filterMap_formText {key : Str} {search : Str → Option Str}
    (encoded : List.Forall₂ SentAs pairs sent) (empty : search [] = none)
    (each : ∀ entry ∈ pairs.zip sent, SentAs entry.1 entry.2 →
      search (entry.2.1 ++ '=' :: entry.2.2) =
        if entry.1.1 = key then some entry.1.2 else none) :
    ((formText sent).splitOn '&').filterMap search =
      pairs.filterMap fun pair => if pair.1 = key then some pair.2 else none := by
  by_cases filled : sent = []
  · subst filled
    cases encoded
    simp [formText, empty]
  · rw [splitOn_formText encoded filled, List.filterMap_map]
    clear filled
    induction encoded with
    | nil => rfl
    | @cons pair entry pairs sent first rest ih =>
        have tail := ih (fun other member => each other (List.mem_cons_of_mem _ member))
        have head := each (pair, entry) List.mem_cons_self first
        simp only [List.filterMap_cons, Function.comp_apply, head] at tail ⊢
        rw [tail]

/-- Distinct keys give each key at most one value. -/
theorem filterMap_key (distinct : (pairs.map Prod.fst).Nodup) (key : Str) :
    (pairs.filterMap fun pair => if pair.1 = key then some pair.2 else none) =
      (valueOf key pairs).toList := by
  induction pairs with
  | nil => rfl
  | cons pair rest ih =>
      rw [List.map_cons, List.nodup_cons] at distinct
      by_cases same : pair.1 = key
      · have none : (rest.filterMap fun pair => if pair.1 = key then some pair.2 else none) = [] := by
          apply List.filterMap_eq_nil_iff.mpr
          intro other member
          apply if_neg
          intro again
          exact distinct.1 (List.mem_map.mpr ⟨other, member, again.trans same.symm⟩)
        simp [valueOf, same, none]
      · have tail := ih distinct.2
        simp only [valueOf, List.filterMap_cons, List.findSome?_cons, same, if_false] at tail ⊢
        exact tail

/-- A key of a form with distinct keys has the value of its pair. -/
theorem valueOf_of_mem (distinct : (pairs.map Prod.fst).Nodup) {pair : Str × Str}
    (member : pair ∈ pairs) : valueOf pair.1 pairs = some pair.2 := by
  have listed : pair.2 ∈
      pairs.filterMap fun other => if other.1 = pair.1 then some other.2 else none :=
    List.mem_filterMap.mpr ⟨pair, member, if_pos rfl⟩
  rw [filterMap_key distinct] at listed
  exact Option.mem_toList.mp listed

theorem valueOf_of_not_mem {key : Str} (absent : key ∉ pairs.map Prod.fst) :
    valueOf key pairs = none := by
  apply List.findSome?_eq_none_iff.mpr
  intro pair member
  apply if_neg
  intro same
  exact absent (List.mem_map.mpr ⟨pair, member, same⟩)

/-- A lookup in a sent form answers with the value of the key. -/
theorem findParam_formText (distinct : (pairs.map Prod.fst).Nodup)
    (encoded : List.Forall₂ SentAs pairs sent) {key : Str} (filled : key ≠ []) :
    findParam (formText sent) key = valueOf key pairs := by
  have empty : foundValue key [] = none := if_neg (Ne.symm filled)
  have listed := filterMap_formText encoded empty
    (fun entry _ sentAs => sentAs.foundValue key)
  rw [findParam_eq, listed, filterMap_key distinct]
  cases valueOf key pairs <;> rfl

/-- The form loop binds an unescaped key to its value. -/
theorem boundValues_formText (distinct : (pairs.map Prod.fst).Nodup)
    (encoded : List.Forall₂ SentAs pairs sent) {key : Str} (plain : percentDecode key = key)
    (unescaped : SentUnescaped key pairs sent) :
    ((formText sent).splitOn '&').filterMap (boundValue key) = (valueOf key pairs).toList := by
  rw [← filterMap_key distinct]
  apply filterMap_formText encoded rfl
  intro entry member sentAs
  exact sentAs.boundValue plain (unescaped entry member)

/-- The loop of the handler reads back the two fields of a sent form. -/
theorem formFields_formText (distinct : (pairs.map Prod.fst).Nodup)
    (encoded : List.Forall₂ SentAs pairs sent) {firstKey secondKey : String}
    (firstPlain : percentDecode firstKey.toList = firstKey.toList)
    (secondPlain : percentDecode secondKey.toList = secondKey.toList)
    (firstUnescaped : SentUnescaped firstKey.toList pairs sent)
    (secondUnescaped : SentUnescaped secondKey.toList pairs sent) :
    Routes.formFields firstKey secondKey (Utf8.encode (formText sent)) =
      ((valueOf firstKey.toList pairs).getD [], (valueOf secondKey.toList pairs).getD []) := by
  rw [formFields_values, Utf8.decodeLossy_of_decode (Utf8.decode_encode _),
    boundValues_formText distinct encoded firstPlain firstUnescaped,
    boundValues_formText distinct encoded secondPlain secondUnescaped]
  cases valueOf firstKey.toList pairs <;> cases valueOf secondKey.toList pairs <;> rfl

end Forms

/-- Every serialisation of a form is read back by the body lookup, by the query lookup, and by the
two form loops for fields that are sent unescaped. -/
theorem form_decoding_undoes_encoding (pairs sent : List (Str × Str)) (request : HttpRequest)
    (distinct : (pairs.map Prod.fst).Nodup) (filled : ∀ pair ∈ pairs, pair.1 ≠ [])
    (encoded : List.Forall₂ SentAs pairs sent) :
    (request.body = Utf8.encode (formText sent) →
      (∀ pair ∈ pairs, request.formParam pair.1 = some pair.2) ∧
      (∀ key, key ≠ [] → key ∉ pairs.map Prod.fst → request.formParam key = none) ∧
      (SentUnescaped "username".toList pairs sent → SentUnescaped "password".toList pairs sent →
        Routes.formFields "username" "password" request.body =
          ((valueOf "username".toList pairs).getD [], (valueOf "password".toList pairs).getD [])) ∧
      (SentUnescaped "name".toList pairs sent → SentUnescaped "description".toList pairs sent →
        Routes.formFields "name" "description" request.body =
          ((valueOf "name".toList pairs).getD [],
            (valueOf "description".toList pairs).getD []))) ∧
    (request.query = some (formText sent) →
      (∀ pair ∈ pairs, request.queryParam pair.1 = some pair.2) ∧
      (∀ key, key ≠ [] → key ∉ pairs.map Prod.fst → request.queryParam key = none)) := by
  have present (pair : Str × Str) (member : pair ∈ pairs) :
      findParam (formText sent) pair.1 = some pair.2 := by
    rw [findParam_formText distinct encoded (filled pair member), valueOf_of_mem distinct member]
  have absent (key : Str) (nonempty : key ≠ []) (missing : key ∉ pairs.map Prod.fst) :
      findParam (formText sent) key = none := by
    rw [findParam_formText distinct encoded nonempty, valueOf_of_not_mem missing]
  constructor
  · intro body
    have read (key : Str) : request.formParam key = findParam (formText sent) key := by
      rw [HttpRequest.formParam, body, Utf8.decode_encode, Option.bind_some]
    simp only [read, body]
    refine ⟨present, absent, ?_, ?_⟩
    · intro username password
      exact formFields_formText distinct encoded (by decide) (by decide) username password
    · intro name description
      exact formFields_formText distinct encoded (by decide) (by decide) name description
  · intro query
    have read (key : Str) : request.queryParam key = findParam (formText sent) key := by
      rw [HttpRequest.queryParam, query, Option.bind_some]
    simp only [read]
    exact ⟨present, absent⟩

/-- A login form with an escaped ampersand, a plus and a letter outside ASCII. -/
def sentLogin : List (Str × Str) :=
  [("username".toList, "j%C3%b6+d".toList), ("password".toList, "a%26b=c".toList)]

/-- The sample login is sent in the form encoding. -/
theorem sentLogin_encodes : List.Forall₂ SentAs
    [("username".toList, "jö d".toList), ("password".toList, "a&b=c".toList)] sentLogin := by
  have escape : Escaped (String.utf8EncodeChar 'ö') "%C3%b6".toList :=
    .cons (.inr rfl) (.inl rfl) (.cons (.inl rfl) (.inl rfl) .nil)
  have ampersand : Escaped (String.utf8EncodeChar '&') "%26".toList :=
    .cons (.inl rfl) (.inl rfl) .nil
  have literals (plain : Char → Bool) (text : Str) (allowed : text.all plain = true) :
      Encoded plain text text := by
    induction text with
    | nil => exact .nil
    | cons char text ih =>
        rw [List.all_cons, Bool.and_eq_true] at allowed
        exact .literal allowed.1 (ih allowed.2)
  refine .cons ⟨literals _ _ (by decide), ?_⟩ (.cons ⟨literals _ _ (by decide), ?_⟩ .nil)
  · exact .literal (by decide) (.escaped escape (.plus (literals _ _ (by decide))))
  · exact .literal (by decide) (.escaped ampersand (literals _ _ (by decide)))

/-- A request that carries the login form. -/
def loginRequest : HttpRequest :=
  HttpRequest.fromParts .post (.withoutQuery (.rooted "/ui/login".toList (.refl true))) []
    (Utf8.encode (formText sentLogin))

/-- The login form is read back. -/
theorem form_decoding_undoes_encoding_login :
    loginRequest.formParam "username".toList = some "jö d".toList ∧
      Routes.formFields "username" "password" loginRequest.body =
        ("jö d".toList, "a&b=c".toList) := by
  obtain ⟨present, _, fields, _⟩ :=
    (form_decoding_undoes_encoding _ sentLogin loginRequest (by decide) (by decide)
      sentLogin_encodes).1 rfl
  exact ⟨present _ List.mem_cons_self, fields (by decide) (by decide)⟩

end HighperfServer
