import HighperfServer.Construction.Templates

namespace HighperfServer
open Library

/-- All values of a header name, in the order of the fields. -/
def HeaderMap.getAll (headers : HeaderMap) (name : Str) : List Bytes :=
  (headers.filter fun field => field.1 = name).map Prod.snd

/-- A lookup returns the first of all values. -/
theorem HeaderMap.get_eq_head (headers : HeaderMap) (name : Str) :
    headers.get name = (headers.getAll name).head? := by
  rw [HeaderMap.getAll, List.head?_map, List.head?_filter]
  rfl

theorem HeaderMap.getAll_append (first second : HeaderMap) (name : Str) :
    HeaderMap.getAll (first ++ second) name = first.getAll name ++ second.getAll name := by
  simp only [HeaderMap.getAll, List.filter_append, List.map_append]

/-- A name that no field carries has no value. -/
theorem HeaderMap.getAll_eq_nil_iff (headers : HeaderMap) (name : Str) :
    headers.getAll name = [] ↔ ∀ field ∈ headers, field.1 ≠ name := by
  simp only [HeaderMap.getAll, List.map_eq_nil_iff, List.filter_eq_nil_iff, decide_eq_true_eq]

/-- A filter by name keeps all values of a name or none. -/
theorem HeaderMap.getAll_filter (headers : HeaderMap) (keep : Str → Bool) (name : Str) :
    HeaderMap.getAll (headers.filter fun field => keep field.1) name =
      if keep name then headers.getAll name else [] := by
  rw [HeaderMap.getAll, HeaderMap.getAll, List.filter_filter]
  split
  · rename_i kept
    congr 1
    apply List.filter_congr
    intro field _
    by_cases same : field.1 = name <;> simp [same, kept]
  · rename_i dropped
    rw [List.map_eq_nil_iff, List.filter_eq_nil_iff]
    intro field _
    by_cases same : field.1 = name <;> simp [same, dropped]

/-- The byte is one that `HeaderValue::to_str` accepts. -/
def isVisible (byte : UInt8) : Bool := (32 ≤ byte ∧ byte < 127) ∨ byte = 9

/-- The character that `to_str` reads for a byte. -/
def byteChar (byte : UInt8) : Char := Char.ofNat byte.toNat

/-- The character is one that `to_str` accepts. -/
def isReadable (char : Char) : Bool := (32 ≤ char.toNat ∧ char.toNat < 127) ∨ char = '\t'

theorem toNat_byteChar (byte : UInt8) : (byteChar byte).toNat = byte.toNat := by
  have bound := byte.toNat_lt
  have valid : byte.toNat.isValidChar := .inl (by omega)
  rw [byteChar, Char.ofNat, dif_pos valid]
  rfl

/-- Distinct bytes have distinct characters. -/
theorem byteChar_injective : Function.Injective byteChar := by
  intro first second same
  apply UInt8.toNat_inj.mp
  rw [← toNat_byteChar, ← toNat_byteChar, same]

/-- A readable character is one byte, and `to_str` accepts it and reads the character. -/
theorem encode_readable {char : Char} (readable : isReadable char = true) :
    ∃ byte, String.utf8EncodeChar char = [byte] ∧ isVisible byte = true ∧ byteChar byte = char := by
  have range : (32 ≤ char.toNat ∧ char.toNat < 127) ∨ char.toNat = 9 := by
    rcases of_decide_eq_true readable with visible | tab
    · exact .inl visible
    · exact .inr (congrArg Char.toNat tab)
  have value : (UInt8.ofNat char.toNat).toNat = char.toNat := Utf8.toNat_ofNat (by omega)
  refine ⟨UInt8.ofNat char.toNat, ?_, ?_, ?_⟩
  · apply Utf8.encodeChar_ascii
    change char.toNat < 0x80
    omega
  · apply decide_eq_true
    rw [UInt8.le_iff_toNat_le, UInt8.lt_iff_toNat_lt, ← UInt8.toNat_inj, value]
    exact range
  · rw [byteChar, value, Char.ofNat_toNat]

/-- A character with an accepted byte is readable. -/
theorem isReadable_of_mem {char : Char} {byte : UInt8} (member : byte ∈ String.utf8EncodeChar char)
    (visible : isVisible byte = true) : isReadable char = true := by
  have range := of_decide_eq_true visible
  rw [UInt8.le_iff_toNat_le, UInt8.lt_iff_toNat_lt, ← UInt8.toNat_inj] at range
  simp only [UInt8.reduceToNat] at range
  obtain rfl : char = byteChar byte := Utf8.eq_of_ascii_mem (by omega) member
  apply decide_eq_true
  rw [toNat_byteChar]
  rcases range with shown | tab
  · exact .inl shown
  · right
    rw [byteChar, tab]

/-- All bytes of a text are accepted when all its characters are readable. -/
theorem all_isVisible_encode (text : Str) :
    (Utf8.encode text).all isVisible = text.all isReadable := by
  have single (char : Char) : (String.utf8EncodeChar char).all isVisible = isReadable char := by
    apply Bool.eq_iff_iff.mpr
    constructor
    · intro visible
      obtain ⟨byte, member⟩ := List.exists_mem_of_ne_nil _ (String.utf8EncodeChar_ne_nil (c := char))
      exact isReadable_of_mem member (List.all_eq_true.mp visible byte member)
    · intro readable
      obtain ⟨byte, sent, visible, _⟩ := encode_readable readable
      rw [sent, List.all_cons, visible]
      rfl
  rw [Utf8.encode, List.all_flatMap]
  exact List.all_congr rfl single

/-- A text is read back when all its characters are readable, and is refused otherwise. -/
theorem headerToStr_encode (text : Str) :
    headerToStr (Utf8.encode text) = if text.all isReadable then some text else none := by
  have read (readable : text.all isReadable = true) : (Utf8.encode text).map byteChar = text := by
    induction text with
    | nil => rfl
    | cons char text ih =>
        obtain ⟨first, rest⟩ := Bool.and_eq_true_iff.mp readable
        obtain ⟨byte, sent, _, back⟩ := encode_readable first
        rw [Utf8.encode_cons, sent, List.singleton_append, List.map_cons, back, ih rest]
  change (if (Utf8.encode text).all isVisible then some ((Utf8.encode text).map byteChar) else none) = _
  rw [all_isVisible_encode]
  split
  · rename_i readable
    rw [read readable]
  · rfl

/-- The digits of a length are a valid header value. -/
theorem validHeaderValue_decimal (value : Nat) : validHeaderValue (decimal value) = true := by
  apply List.all_eq_true.mpr
  intro char member
  have digit := Nat.isDigit_of_mem_toDigits (by decide) (by decide) member
  rw [Char.isDigit_iff_toNat] at digit
  have low : '0'.toNat = 48 := rfl
  have high : '9'.toNat = 57 := rfl
  simp only [decide_eq_true_eq]
  left
  omega

/-- Distinct numbers have distinct decimal texts. -/
theorem decimal_injective : Function.Injective decimal := by
  intro first second equal
  have values := congrArg (Nat.ofDigitChars 10 · 0) equal
  simpa only [decimal, Nat.ofDigitChars_toDigits (by decide : 1 < 10) (by decide)] using values

/-- A call of `header` with a name and a value that the `http` crate accepts. -/
structure HeaderCall where
  key : Str
  value : Str
  keyValid : validHeaderName key = true
  valueValid : validHeaderValue value = true

/-- The methods that turn a builder into a response. -/
inductive Finisher where
  | text (body : Str)
  | json (serialised : Option Bytes)
  | bytesBody (contentType : Str) (body : Bytes)
  | empty
  | streamBody (contentType : Str) (body : Bytes) (contentLength : Nat)

namespace Finisher

def finish (builder : ResponseBuilder) : Finisher → HttpResponse
  | text body => builder.text body
  | json serialised => builder.json serialised
  | bytesBody contentType body => builder.bytesBody contentType body
  | empty => builder.empty
  | streamBody contentType body contentLength => builder.streamBody contentType body contentLength

/-- The content type that a finisher sets, where a value that does not serialise becomes a plain
text. -/
def contentType : Finisher → Str
  | text _ | empty | json none => "text/plain; charset=utf-8".toList
  | json (some _) => "application/json".toList
  | bytesBody contentType _ | streamBody contentType _ _ => contentType

/-- The body that a finisher sends. -/
def body : Finisher → Bytes
  | text body => Utf8.encode body
  | json none => Utf8.encode "Internal Server Error\n".toList
  | json (some body) | bytesBody _ body | streamBody _ body _ => body
  | empty => []

/-- The length that a finisher declares. -/
def declaredLength : Finisher → Nat
  | streamBody _ _ contentLength => contentLength
  | finisher => finisher.body.length

end Finisher

/-- The builder after a chain of `header` calls. -/
def chain (status : StatusCode) (calls : List HeaderCall) : ResponseBuilder :=
  calls.foldl (fun builder call => builder.header call.key call.value) (ResponseBuilder.new status)

/-- A chain of calls collects its headers in order. -/
theorem chain_eq (status : StatusCode) (calls : List HeaderCall) :
    chain status calls = ⟨status, calls.map fun call => (call.key, call.value)⟩ := by
  have general (builder : ResponseBuilder) :
      calls.foldl (fun builder call => builder.header call.key call.value) builder =
        ⟨builder.status, builder.extraHeaders ++ calls.map fun call => (call.key, call.value)⟩ := by
    induction calls generalizing builder with
    | nil => simp
    | cons call calls ih =>
        rw [List.foldl_cons, ih]
        simp [ResponseBuilder.header]
  exact general _

/-- The values that a chain gives for a header name, in any case of its letters. -/
def given (calls : List HeaderCall) (name : Str) : List Str :=
  (calls.filter fun call => headerName call.key = name).map HeaderCall.value

/-- The fields that the builder itself sets. -/
def defaultFields (contentType : Str) (contentLength : Nat) : HeaderMap :=
  [("content-type".toList, Utf8.encode contentType),
    ("content-length".toList, Utf8.encode (decimal contentLength)),
    ("server".toList, Utf8.encode serverHeader)]

section Assemble
variable (status : StatusCode) (calls : List HeaderCall) {contentType : Str} (body : Bytes)
  (contentLength : Nat)

/-- A valid content type assembles to the defaults followed by everything that the chain gave. -/
theorem assemble_of_valid (valid : validHeaderValue contentType = true) :
    (chain status calls).assemble contentType body contentLength =
      ⟨status, defaultFields contentType contentLength ++
        calls.map fun call => (headerName call.key, Utf8.encode call.value), body⟩ := by
  have names : validHeaderName "content-type".toList = true ∧
      validHeaderName "content-length".toList = true ∧ validHeaderName "server".toList = true := by
    decide
  have server : validHeaderValue serverHeader = true := by decide
  have extras (call : HeaderCall) : (validHeaderName call.key && validHeaderValue call.value) = true :=
    Bool.and_eq_true_iff.mpr ⟨call.keyValid, call.valueValid⟩
  have lowered : headerName "content-type".toList = "content-type".toList ∧
      headerName "content-length".toList = "content-length".toList ∧
      headerName "server".toList = "server".toList := by decide
  rw [chain_eq, ResponseBuilder.assemble, if_pos]
  · simp only [List.map_append, List.map_cons, List.map_nil, List.map_map, lowered, defaultFields]
    rfl
  · simp only [List.all_append, List.all_cons, List.all_nil, List.all_map, names, server, valid,
      validHeaderValue_decimal, Bool.and_self, Bool.true_and]
    exact List.all_eq_true.mpr fun call _ => extras call

/-- An invalid content type turns the response into the fallback. -/
theorem assemble_of_invalid (invalid : validHeaderValue contentType = false) :
    (chain status calls).assemble contentType body contentLength = ResponseBuilder.fallback := by
  rw [ResponseBuilder.assemble, if_neg]
  simp [invalid]

/-- The extra headers of a name are the values given for it. -/
theorem getAll_chain (name : Str) :
    HeaderMap.getAll (calls.map fun call => (headerName call.key, Utf8.encode call.value)) name =
      (given calls name).map Utf8.encode := by
  simp only [HeaderMap.getAll, given, List.filter_map, List.map_map]
  rfl

end Assemble

/-- The chain that reaches the response, which is none when a value does not serialise. -/
def Finisher.kept (calls : List HeaderCall) : Finisher → List HeaderCall
  | json none => []
  | _ => calls

def Finisher.keptStatus (status : StatusCode) : Finisher → StatusCode
  | json none => .internalServerError
  | _ => status

/-- Every finisher assembles its own content type, body and length. -/
theorem Finisher.finish_chain (status : StatusCode) (calls : List HeaderCall) (finisher : Finisher) :
    finisher.finish (chain status calls) = (chain (finisher.keptStatus status)
      (finisher.kept calls)).assemble finisher.contentType finisher.body finisher.declaredLength := by
  cases finisher with
  | json serialised => cases serialised <;> rfl
  | text | bytesBody | empty | streamBody => rfl

/-- The response has one content type, the last given or the default, one length, that of its body,
and one server header. -/
def Overrides (calls : List HeaderCall) (finisher : Finisher) (response : HttpResponse) : Prop :=
  response.headers.getAll "content-type".toList =
      [Utf8.encode ((given calls "content-type".toList).getLast?.getD finisher.contentType)] ∧
    response.headers.getAll "content-length".toList =
      [Utf8.encode (decimal response.body.length)] ∧
    (response.headers.getAll "server".toList).length = 1

instance (calls : List HeaderCall) (finisher : Finisher) (response : HttpResponse) :
    Decidable (Overrides calls finisher response) :=
  inferInstanceAs (Decidable (_ ∧ _ ∧ _))

/-- The chain gives no header that the builder sets, and the finisher gets a valid content type and
the length of its body. A value that does not serialise forgets the chain, and needs the last content
type of the chain to be its own. -/
def Undisturbed (calls : List HeaderCall) : Finisher → Prop
  | .json none => ∀ value ∈ (given calls "content-type".toList).getLast?,
      value = "text/plain; charset=utf-8".toList
  | finisher => validHeaderValue finisher.contentType = true ∧
      finisher.declaredLength = finisher.body.length ∧
      ∀ call ∈ calls, headerName call.key ∉
        ["content-type".toList, "content-length".toList, "server".toList]

/-- A list that starts with one value is another value alone only without a rest. -/
theorem singleton_append_encoded_iff {first last : Str} (rest : List Str) :
    [Utf8.encode first] ++ rest.map Utf8.encode = [Utf8.encode last] ↔ rest = [] ∧ last = first := by
  rw [List.singleton_append, List.cons.injEq, List.map_eq_nil_iff, Utf8.encode_injective.eq_iff, and_comm,
    eq_comm (a := first)]

/-- The three header groups of a finished chain, without the encoding. -/
theorem overrides_iff_given (status : StatusCode) (calls : List HeaderCall) (finisher : Finisher)
    (valid : validHeaderValue finisher.contentType = true) :
    Overrides calls finisher (finisher.finish (chain status calls)) ↔
      (given (finisher.kept calls) "content-type".toList = [] ∧
        (given calls "content-type".toList).getLast?.getD finisher.contentType =
          finisher.contentType) ∧
      (given (finisher.kept calls) "content-length".toList = [] ∧
        finisher.declaredLength = finisher.body.length) ∧
      given (finisher.kept calls) "server".toList = [] := by
  have fields (name : Str) : (finisher.finish (chain status calls)).headers.getAll name =
      (defaultFields finisher.contentType finisher.declaredLength).getAll name ++
        (given (finisher.kept calls) name).map Utf8.encode := by
    rw [finisher.finish_chain, assemble_of_valid _ _ _ _ valid, HeaderMap.getAll_append, getAll_chain]
  have sent : (finisher.finish (chain status calls)).body = finisher.body := by
    rw [finisher.finish_chain, assemble_of_valid _ _ _ _ valid]
  have types : (defaultFields finisher.contentType finisher.declaredLength).getAll
      "content-type".toList = [Utf8.encode finisher.contentType] := rfl
  have lengths : (defaultFields finisher.contentType finisher.declaredLength).getAll
      "content-length".toList = [Utf8.encode (decimal finisher.declaredLength)] := rfl
  have servers : (defaultFields finisher.contentType finisher.declaredLength).getAll
      "server".toList = [Utf8.encode serverHeader] := rfl
  have counted (rest : List Str) :
      ([Utf8.encode serverHeader] ++ rest.map Utf8.encode).length = 1 ↔ rest = [] := by
    simp
  rw [Overrides, fields, fields, fields, sent, types, lengths, servers, singleton_append_encoded_iff,
    singleton_append_encoded_iff, counted, decimal_injective.eq_iff, eq_comm (a := finisher.body.length)]

/-- A name has no value exactly when no call gives it. -/
theorem given_eq_nil_iff (calls : List HeaderCall) (name : Str) :
    given calls name = [] ↔ ∀ call ∈ calls, headerName call.key ≠ name := by
  simp only [given, List.map_eq_nil_iff, List.filter_eq_nil_iff, decide_eq_true_eq]

/-- A finisher whose chain reaches the response is undisturbed by the given headers. -/
theorem undisturbed_iff_given (calls : List HeaderCall) {finisher : Finisher}
    (serialises : finisher ≠ .json none) :
    Undisturbed calls finisher ↔ validHeaderValue finisher.contentType = true ∧
      finisher.declaredLength = finisher.body.length ∧
      given calls "content-type".toList = [] ∧ given calls "content-length".toList = [] ∧
      given calls "server".toList = [] := by
  have condition : Undisturbed calls finisher ↔ validHeaderValue finisher.contentType = true ∧
      finisher.declaredLength = finisher.body.length ∧
      ∀ call ∈ calls, headerName call.key ∉
        ["content-type".toList, "content-length".toList, "server".toList] := by
    cases finisher with
    | json serialised =>
        cases serialised with
        | none => exact absurd rfl serialises
        | some body => exact Iff.rfl
    | text | bytesBody | empty | streamBody => exact Iff.rfl
  rw [condition, given_eq_nil_iff, given_eq_nil_iff, given_eq_nil_iff]
  simp only [List.mem_cons, List.not_mem_nil, or_false, not_or, forall_and]

theorem getD_eq_default_iff {A : Type} (option : Option A) (default : A) :
    option.getD default = default ↔ ∀ value ∈ option, value = default := by
  cases option <;> simp

/-- An explicit header replaces a default exactly when there is nothing to replace. -/
theorem overrides_iff_undisturbed (status : StatusCode) (calls : List HeaderCall)
    (finisher : Finisher) :
    Overrides calls finisher (finisher.finish (chain status calls)) ↔ Undisturbed calls finisher := by
  by_cases failed : finisher = .json none
  · subst failed
    rw [overrides_iff_given status calls _ (by decide)]
    refine Iff.trans ⟨fun framed => framed.1.2, fun same => ?_⟩ (getD_eq_default_iff _ _)
    exact ⟨⟨rfl, same⟩, ⟨rfl, rfl⟩, rfl⟩
  · rw [undisturbed_iff_given calls failed]
    have kept : finisher.kept calls = calls := by
      cases finisher with
      | json serialised =>
          cases serialised with
          | none => exact absurd rfl failed
          | some body => rfl
      | text | bytesBody | empty | streamBody => rfl
    cases valid : validHeaderValue finisher.contentType with
    | false =>
        refine iff_of_false (fun overrides => ?_) (fun undisturbed => absurd undisturbed.1 (by simp))
        rw [finisher.finish_chain, assemble_of_invalid _ _ _ _ valid] at overrides
        exact absurd overrides.1 (List.cons_ne_nil _ _).symm
    | true =>
        rw [overrides_iff_given status calls finisher valid, kept]
        constructor
        · rintro ⟨⟨noType, _⟩, ⟨noLength, declared⟩, noServer⟩
          exact ⟨rfl, declared, noType, noLength, noServer⟩
        · rintro ⟨_, declared, noType, noLength, noServer⟩
          rw [noType]
          exact ⟨⟨rfl, rfl⟩, ⟨noLength, declared⟩, noServer⟩

/-- The content type of a rendered page. -/
def htmlType : HeaderCall where
  key := "content-type".toList
  value := "text/html; charset=utf-8".toList
  keyValid := by decide
  valueValid := by decide

/-- A rendered page is plain text first and a web page second. -/
theorem render_keeps_default_type :
    ¬ Overrides [htmlType] (.text "<p>ok</p>".toList)
        (Finisher.finish (chain .ok [htmlType]) (.text "<p>ok</p>".toList)) ∧
      (TemplateEngine.render ⟨fun _ _ => .ok "<p>ok</p>".toList⟩ "index.html".toList
        Context.new).headers.getAll "content-type".toList =
          [Utf8.encode "text/plain; charset=utf-8".toList,
            Utf8.encode "text/html; charset=utf-8".toList] := by
  decide +kernel

end HighperfServer
