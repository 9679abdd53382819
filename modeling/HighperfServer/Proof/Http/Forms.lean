import HighperfServer.Construction.Server.Routes

namespace HighperfServer
open Library

section Escapes
variable {byte high low upper lower : UInt8} {rest : Bytes}

/-- A hexadecimal digit is below sixteen. -/
theorem hexDigit_lt (digit : hexDigit byte = some upper) : upper.toNat < 16 := by
  unfold hexDigit at digit
  simp only [UInt8.le_iff_toNat_le] at digit
  split at digit
  · rename_i bounds
    obtain rfl := Option.some.inj digit
    have sub : (byte - 0x30).toNat = byte.toNat - 0x30 :=
      UInt8.toNat_sub_of_le _ _ (UInt8.le_iff_toNat_le.mpr bounds.1)
    have limit : byte.toNat ≤ 0x39 := bounds.2
    omega
  · split at digit
    · rename_i bounds
      obtain rfl := Option.some.inj digit
      have sub : (byte - 0x41).toNat = byte.toNat - 0x41 :=
        UInt8.toNat_sub_of_le _ _ (UInt8.le_iff_toNat_le.mpr bounds.1)
      have limit : byte.toNat ≤ 0x46 := bounds.2
      rw [UInt8.toNat_add, sub]
      simp only [UInt8.toNat_ofNat, Nat.reducePow, Nat.reduceMod]
      omega
    · obtain ⟨bounds, same⟩ := Option.ite_none_right_eq_some.mp digit
      obtain rfl := Option.some.inj same
      have sub : (byte - 0x61).toNat = byte.toNat - 0x61 :=
        UInt8.toNat_sub_of_le _ _ (UInt8.le_iff_toNat_le.mpr bounds.1)
      have limit : byte.toNat ≤ 0x66 := bounds.2
      rw [UInt8.toNat_add, sub]
      simp only [UInt8.toNat_ofNat, Nat.reducePow, Nat.reduceMod]
      omega

/-- Two hexadecimal digits make the same byte by shifting and by multiplying. -/
theorem shift_or_eq (first : upper.toNat < 16) (second : lower.toNat < 16) :
    (upper <<< 4) ||| lower = upper * 0x10 + lower := by
  apply UInt8.toNat_inj.mp
  have shifted : (upper.toNat <<< 4) % 256 = upper.toNat <<< 4 := by
    rw [Nat.shiftLeft_eq]
    omega
  simp only [UInt8.toNat_or, UInt8.toNat_shiftLeft, UInt8.toNat_add, UInt8.toNat_mul,
    UInt8.toNat_ofNat, Nat.reducePow, Nat.reduceMod]
  rw [shifted, ← Nat.shiftLeft_add_eq_or_of_lt (by simpa using second), Nat.shiftLeft_eq]
  omega

/-- A byte other than the percent sign stands for itself. -/
theorem percentDecodeBytes_plain (plain : byte ≠ 0x25) (rest : Bytes) :
    percentDecodeBytes (byte :: rest) = byte :: percentDecodeBytes rest := by
  rw [percentDecodeBytes.eq_def]
  dsimp only
  split
  · rw [if_neg plain]
  · rfl

/-- A percent sign before two hexadecimal digits stands for their byte. -/
theorem percentDecodeBytes_escape (first : hexDigit high = some upper)
    (second : hexDigit low = some lower) (rest : Bytes) :
    percentDecodeBytes (0x25 :: high :: low :: rest) =
      ((upper <<< 4) ||| lower) :: percentDecodeBytes rest := by
  rw [percentDecodeBytes.eq_def]
  simp only [if_true, first, second]

/-- Any other percent sign stands for itself. -/
theorem percentDecodeBytes_malformed (malformed : afterPercentSign rest = none) :
    percentDecodeBytes (0x25 :: rest) = 0x25 :: percentDecodeBytes rest := by
  rw [percentDecodeBytes.eq_def]
  dsimp only
  split
  · rename_i high low after
    rw [if_pos rfl]
    cases first : hexDigit high with
    | none => rfl
    | some upper =>
        cases second : hexDigit low with
        | none => rfl
        | some lower => exact absurd malformed (by simp [afterPercentSign, first, second])
  · rfl

/-- The crate reads an escape exactly from two hexadecimal digits. -/
theorem afterPercentSign_eq_some_iff {decoded : UInt8} :
    afterPercentSign rest = some decoded ↔ ∃ high low after upper lower,
      rest = high :: low :: after ∧ hexDigit high = some upper ∧ hexDigit low = some lower ∧
        decoded = upper * 0x10 + lower := by
  constructor
  · intro read
    obtain ⟨high, front, afterHigh⟩ := Option.bind_eq_some_iff.mp read
    obtain ⟨upper, first, afterUpper⟩ := Option.bind_eq_some_iff.mp afterHigh
    obtain ⟨low, next, afterLow⟩ := Option.bind_eq_some_iff.mp afterUpper
    obtain ⟨lower, second, whole⟩ := Option.bind_eq_some_iff.mp afterLow
    cases rest with
    | nil => exact absurd front (by simp)
    | cons head tail =>
        cases tail with
        | nil => exact absurd next (by simp)
        | cons middle after =>
            obtain rfl := Option.some.inj front
            obtain rfl := Option.some.inj next
            exact ⟨_, _, after, upper, lower, rfl, first, second, (Option.some.inj whole).symm⟩
  · rintro ⟨high, low, after, upper, lower, rfl, first, second, rfl⟩
    simp [afterPercentSign, first, second]

/-- The hand-written decoder and the crate decode alike. -/
theorem percentDecodeFrom_eq (bytes : Bytes) :
    percentDecodeFrom 0 bytes = percentDecodeBytes bytes := by
  induction length : bytes.length using Nat.strong_induction_on generalizing bytes with
  | _ count ih =>
      cases bytes with
      | nil => rfl
      | cons byte rest =>
          have tail : percentDecodeFrom 0 rest = percentDecodeBytes rest :=
            ih rest.length (by rw [← length]; exact Nat.lt_succ_self _) rest rfl
          rw [percentDecodeFrom]
          by_cases percent : byte = 0x25
          · subst percent
            rw [if_pos rfl]
            cases read : afterPercentSign rest with
            | none => rw [percentDecodeBytes_malformed read, tail]
            | some decoded =>
                obtain ⟨high, low, after, upper, lower, rfl, first, second, rfl⟩ :=
                  afterPercentSign_eq_some_iff.mp read
                have later : percentDecodeFrom 0 after = percentDecodeBytes after := by
                  apply ih after.length _ after rfl
                  rw [← length, List.length_cons, List.length_cons, List.length_cons]
                  omega
                rw [percentDecodeBytes_escape first second,
                  shift_or_eq (hexDigit_lt first) (hexDigit_lt second), ← later]
                rfl
          · rw [if_neg percent, percentDecodeBytes_plain percent, tail]

end Escapes

/-- Both form parsers decode a value alike, whether or not its bytes are UTF-8. -/
theorem percentDecode_eq (value : Str) :
    percentDecode value = Utf8.decodeLossy (percentDecodeStr (plusToSpace value)) := by
  unfold percentDecode percentDecodeStr
  rw [percentDecodeFrom_eq]
  dsimp only
  cases decoded : Utf8.decode (percentDecodeBytes (Utf8.encode (plusToSpace value))) with
  | none => rfl
  | some text => exact (Utf8.decodeLossy_of_decode decoded).symm

/-- The pair binds the key by its literal spelling. -/
def boundValue (key pair : Str) : Option Str :=
  (splitOnce '=' pair).bind fun (name, value) =>
    if name = key then some (percentDecode value) else none

/-- The pair answers a lookup by its decoded spelling. -/
def foundValue (key pair : Str) : Option Str :=
  if percentDecode (splitPair pair).1 = key then some (percentDecode (splitPair pair).2) else none

/-- A lookup takes the first value among the matching pairs. -/
theorem findParam_eq (text key : Str) :
    findParam text key = ((text.splitOn '&').filterMap (foundValue key)).head? := by
  rw [List.head?_filterMap]
  rfl

/-- One turn of the form loop. -/
def bindPair (firstKey secondKey : Str) (fields : Str × Str) (pair : Str) : Str × Str :=
  ((boundValue firstKey pair).getD fields.1, (boundValue secondKey pair).getD fields.2)

/-- The form loop folds over the pairs of the body. -/
theorem formFields_eq (firstKey secondKey : String) (body : Bytes) :
    Routes.formFields firstKey secondKey body =
      ((Utf8.decodeLossy body).splitOn '&').foldl (bindPair firstKey.toList secondKey.toList)
        ([], []) := by
  unfold Routes.formFields
  congr 1
  funext fields pair
  unfold bindPair boundValue
  cases splitOnce '=' pair with
  | none => rfl
  | some parts =>
      simp only [Option.bind_some, ← percentDecode_eq]
      split <;> split <;> rfl

/-- The loop keeps the last value that is bound to each key. -/
theorem foldl_bindPair (firstKey secondKey : Str) (pairs : List Str) (fields : Str × Str) :
    pairs.foldl (bindPair firstKey secondKey) fields =
      ((pairs.filterMap (boundValue firstKey)).getLast?.getD fields.1,
        (pairs.filterMap (boundValue secondKey)).getLast?.getD fields.2) := by
  induction pairs generalizing fields with
  | nil => rfl
  | cons pair rest ih =>
      rw [List.foldl_cons, ih]
      unfold bindPair
      apply Prod.ext
      · cases bound : boundValue firstKey pair with
        | none => simp [bound]
        | some value => simp [bound, List.getLast?_cons]
      · cases bound : boundValue secondKey pair with
        | none => simp [bound]
        | some value => simp [bound, List.getLast?_cons]

/-- Each field has its last value in the body. -/
theorem formFields_values (firstKey secondKey : String) (body : Bytes) :
    Routes.formFields firstKey secondKey body =
      ((((Utf8.decodeLossy body).splitOn '&').filterMap (boundValue firstKey.toList)).getLast?.getD [],
        (((Utf8.decodeLossy body).splitOn '&').filterMap
          (boundValue secondKey.toList)).getLast?.getD []) := by
  rw [formFields_eq, foldl_bindPair]

/-- The pair's key decodes to the wanted one. -/
def hasKey (key pair : Str) : Bool := percentDecode (splitPair pair).1 = key

/-- A lookup looks only at the pairs with the key. -/
theorem filterMap_foundValue (key : Str) (pairs : List Str) :
    pairs.filterMap (foundValue key) =
      (pairs.filter (hasKey key)).map fun pair => percentDecode (splitPair pair).2 := by
  rw [← List.filterMap_eq_map, List.filterMap_filter]
  apply List.filterMap_congr
  intro pair _
  simp [foundValue, hasKey]

/-- A key that decodes to itself is bound only by pairs that decode to it. -/
theorem filterMap_boundValue {key : Str} (plain : percentDecode key = key) (pairs : List Str) :
    pairs.filterMap (boundValue key) = (pairs.filter (hasKey key)).filterMap (boundValue key) := by
  rw [List.filterMap_filter]
  apply List.filterMap_congr
  intro pair _
  by_cases has : hasKey key pair = true
  · rw [if_pos has]
  · rw [if_neg has]
    unfold boundValue
    cases split : splitOnce '=' pair with
    | none => rfl
    | some parts =>
        have different : parts.1 ≠ key := by
          intro same
          apply has
          simp [hasKey, splitPair, split, same, plain]
        exact if_neg different

/-- A literally spelled key that occurs once is bound by the form loop to the value that the
lookup finds. -/
theorem form_parsers_agree (request : HttpRequest) (key other : String) (text pair value : Str)
    (valid : Utf8.decode request.body = some text)
    (once : (text.splitOn '&').filter (fun pair => percentDecode (splitPair pair).1 = key.toList) =
      [pair])
    (spelled : splitOnce '=' pair = some (key.toList, value)) :
    request.formParam key.toList = some (Routes.formFields key other request.body).1 ∧
      request.formParam key.toList = some (Routes.formFields other key request.body).2 := by
  have once : (text.splitOn '&').filter (hasKey key.toList) = [pair] := once
  have parts : splitPair pair = (key.toList, value) := by rw [splitPair, spelled]; rfl
  have plain : percentDecode key.toList = key.toList := by
    have member : pair ∈ (text.splitOn '&').filter (hasKey key.toList) := by rw [once]; simp
    have keyed := (List.mem_filter.mp member).2
    rwa [hasKey, parts, decide_eq_true_eq] at keyed
  have found : request.formParam key.toList = some (percentDecode value) := by
    rw [HttpRequest.formParam, valid, Option.bind_some, findParam_eq, filterMap_foundValue, once,
      List.map_singleton, parts]
    rfl
  have bound : ((text.splitOn '&').filterMap (boundValue key.toList)).getLast? =
      some (percentDecode value) := by
    rw [filterMap_boundValue plain, once]
    simp [boundValue, spelled]
  rw [found, formFields_values, formFields_values, Utf8.decodeLossy_of_decode valid, bound]
  exact ⟨rfl, rfl⟩

/-- A login form whose value has a second equals sign, a truncated escape and an escape that is not
UTF-8. -/
def malformedLogin : HttpRequest :=
  HttpRequest.fromParts .post (.withoutQuery (.rooted "/ui/login".toList (.refl true))) []
    (Utf8.encode "password=&username=a%FF=%2".toList)

/-- Both parsers read the malformed value alike. -/
theorem form_parsers_agree_malformed :
    malformedLogin.formParam "username".toList =
        some (Routes.formFields "username" "password" malformedLogin.body).1 ∧
      malformedLogin.formParam "username".toList =
        some (Routes.formFields "password" "username" malformedLogin.body).2 :=
  form_parsers_agree malformedLogin "username" "password" "password=&username=a%FF=%2".toList
    "username=a%FF=%2".toList "a%FF=%2".toList (by decide) (by decide) (by decide)

end HighperfServer
