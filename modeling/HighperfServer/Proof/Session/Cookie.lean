import HighperfServer.Construction.Server.Routes
import HighperfServer.Proof.Http.Response

namespace HighperfServer
open Library

/-- The byte may stand in the name of a cookie. -/
def isNameByte (byte : UInt8) : Bool := 33 ≤ byte ∧ byte < 127 ∧ byte ≠ 0x3D ∧ byte ≠ 0x3B

/-- The cookie parser takes a part for the session by the whole name in front of its first equals
sign. -/
theorem stripSession_eq {name : Str}
    (solid : ∀ char ∈ name, isWhitespace char = false ∧ char ≠ '=') (value : Str) :
    "session=".toList.isPrefixOf? (trim (name ++ '=' :: value)) =
      if name = "session".toList then some (value.rdropWhile isWhitespace) else none := by
  have key : "session=".toList = "session".toList ++ ['='] := by decide
  rw [trim_append_cons _ (fun char member => (solid char member).1) (by decide), key,
    isPrefixOf_delimited (by decide) (fun member => (solid '=' member).2 rfl)]

/-- A cookie pair has a name of visible characters and a value of any bytes but semicolons. -/
structure CookiePair where
  name : Bytes
  value : Bytes
  named : name.all isNameByte = true
  separated : 0x3B ∉ value

namespace CookiePair

/-- The pair as it is sent. -/
def text (pair : CookiePair) : Bytes := pair.name ++ 0x3D :: pair.value

/-- The value can be read as text. -/
def readable (pair : CookiePair) : Bool := pair.value.all isVisible

/-- The pair is named `session`. -/
def isSession (pair : CookiePair) : Bool := pair.name.map byteChar = "session".toList

/-- The value of a session pair without its trailing white space. -/
def session (pair : CookiePair) : Option Str :=
  if pair.isSession then some ((pair.value.map byteChar).rdropWhile isWhitespace) else none

/-- One field carries its pairs joined by a semicolon and a blank. -/
def field (pairs : List CookiePair) : Bytes := [0x3B, 0x20].intercalate (pairs.map text)

theorem isNameByte_of_mem (pair : CookiePair) {byte : UInt8} (member : byte ∈ pair.name) :
    isNameByte byte = true := List.all_eq_true.mp pair.named byte member

/-- The text of a cookie is visible exactly when its value is readable. -/
theorem text_visible (pair : CookiePair) : pair.text.all isVisible = pair.readable := by
  have names : pair.name.all isVisible = true := by
    apply List.all_eq_true.mpr
    intro byte member
    have inside := pair.isNameByte_of_mem member
    simp only [isNameByte, isVisible, decide_eq_true_eq] at inside ⊢
    left
    exact ⟨Nat.le_trans (by decide : (32 : Nat) ≤ 33) inside.1, inside.2.1⟩
  rw [text, List.all_append, names, List.all_cons]
  rfl

/-- The read pair contains no semicolon. -/
theorem text_separated (pair : CookiePair) : ';' ∉ pair.text.map byteChar := by
  intro member
  obtain ⟨byte, present, same⟩ := List.mem_map.mp member
  have semicolon : byte = 0x3B := byteChar_injective (same.trans (by decide))
  subst semicolon
  rcases List.mem_append.mp present with name | rest
  · exact absurd (pair.isNameByte_of_mem name) (by decide)
  · rcases List.mem_cons.mp rest with equals | value
    · exact absurd equals (by decide)
    · exact pair.separated value

/-- The cookie parser finds a session in exactly the pairs named `session`. -/
theorem session_eq (pair : CookiePair) :
    "session=".toList.isPrefixOf? (trim (pair.text.map byteChar)) = pair.session := by
  have solid (char : Char) (member : char ∈ pair.name.map byteChar) :
      isWhitespace char = false ∧ char ≠ '=' := by
    obtain ⟨byte, present, rfl⟩ := List.mem_map.mp member
    have inside := pair.isNameByte_of_mem present
    simp only [isNameByte, decide_eq_true_eq] at inside
    have low : 33 ≤ byte.toNat := inside.1
    have high : byte.toNat < 127 := inside.2.1
    constructor
    · simp only [isWhitespace, toNat_byteChar, decide_eq_false_iff_not, List.mem_cons,
        List.not_mem_nil, or_false]
      omega
    · intro equals
      exact inside.2.2.1 (byteChar_injective (equals.trans (by decide)))
  have read : pair.text.map byteChar =
      pair.name.map byteChar ++ '=' :: pair.value.map byteChar := by
    rw [text, List.map_append, List.map_cons]
    rfl
  rw [read, stripSession_eq solid]
  simp only [session, isSession, decide_eq_true_eq]

/-- What one field says about the session. -/
def fieldSession (pairs : List CookiePair) : Option Str :=
  if pairs.all readable then pairs.findSome? session else none

/-- A field is read when all its pairs are. -/
theorem headerToStr_field (pairs : List CookiePair) :
    headerToStr (field pairs) =
      if pairs.all readable then
        some ([';', ' '].intercalate (pairs.map fun pair => pair.text.map byteChar))
      else none := by
  have visible : (field pairs).all isVisible = pairs.all readable := by
    rw [field, all_intercalate (by decide), List.all_map]
    exact List.all_congr rfl (fun pair => pair.text_visible)
  have read : (field pairs).map byteChar =
      [';', ' '].intercalate (pairs.map fun pair => pair.text.map byteChar) := by
    rw [field, map_intercalate, List.map_map]
    rfl
  rw [← visible, ← read]
  rfl

/-- The extraction takes the first session cookie of the joined field. -/
theorem extractSessionCookie_joined (pairs : List CookiePair) :
    extractSessionCookie
        (some ([';', ' '].intercalate (pairs.map fun pair => pair.text.map byteChar))) =
      pairs.findSome? session := by
  cases pairs with
  | nil => decide
  | cons first rest =>
      have clean (part : Str)
          (member : part ∈ (first :: rest).map fun pair => pair.text.map byteChar) :
          ';' ∉ part := by
        obtain ⟨pair, _, rfl⟩ := List.mem_map.mp member
        exact pair.text_separated
      have ignores (part : Str) : "session=".toList.isPrefixOf? (trim (' ' :: part)) =
          "session=".toList.isPrefixOf? (trim part) := by
        rw [trim_cons_blank]
      rw [extractSessionCookie, Option.bind_some,
        findSome_splitOn_joined (by decide) ignores clean (List.cons_ne_nil _ _),
        List.findSome?_map]
      have same : ((fun part => "session=".toList.isPrefixOf? (trim part)) ∘
          fun pair : CookiePair => pair.text.map byteChar) = session := by
        funext pair
        exact pair.session_eq
      rw [same]

/-- The token comes from the first cookie field alone. -/
theorem sessionToken_eq {request : HttpRequest} {first : List CookiePair} {rest : List Bytes}
    (fields : request.headers.getAll "cookie".toList = field first :: rest) :
    Routes.sessionToken request = fieldSession first := by
  rw [Routes.sessionToken, HttpRequest.header, HeaderMap.get_eq_head, fields, List.head?_cons,
    Option.bind_some, headerToStr_field, fieldSession]
  split
  · exact extractSessionCookie_joined first
  · rfl

/-- Among readable pairs the session stands in the first field or nowhere.

When some pair is not readable, the single field is not read at all, and the first field must not
yield a session either. -/
def SessionFirst (first : List CookiePair) (rest : List (List CookiePair)) : Prop :=
  if (first ++ rest.flatten).all readable then
    (∃ pair ∈ first, pair.isSession = true) ∨ ∀ pair ∈ rest.flatten, pair.isSession = false
  else
    first.all readable = false ∨ ∀ pair ∈ first, pair.isSession = false

/-- A pair without a session is no session cookie. -/
theorem session_eq_none_iff {pair : CookiePair} :
    pair.session = none ↔ pair.isSession = false := by
  simp [session]

/-- A field has no session exactly when none of its pairs is a session cookie. -/
theorem findSome_session_eq_none_iff {pairs : List CookiePair} :
    pairs.findSome? session = none ↔ ∀ pair ∈ pairs, pair.isSession = false := by
  simp only [List.findSome?_eq_none_iff, session_eq_none_iff]

/-- Splitting the field loses no session exactly when the first part has it. -/
theorem fieldSession_split_iff (first : List CookiePair) (rest : List (List CookiePair)) :
    fieldSession first = fieldSession (first ++ rest.flatten) ↔ SessionFirst first rest := by
  unfold fieldSession SessionFirst
  by_cases whole : (first ++ rest.flatten).all readable = true
  · have front : first.all readable = true := by
      rw [List.all_append, Bool.and_eq_true] at whole
      exact whole.1
    rw [if_pos whole, if_pos whole, if_pos front, List.findSome?_append,
      ← findSome_session_eq_none_iff]
    cases found : first.findSome? session with
    | some token =>
        have named : ∃ pair ∈ first, pair.isSession = true := by
          obtain ⟨pair, member, yields⟩ := List.exists_of_findSome?_eq_some found
          refine ⟨pair, member, ?_⟩
          by_contra unnamed
          rw [session, if_neg unnamed] at yields
          exact absurd yields (by simp)
        exact iff_of_true rfl (.inl named)
    | none =>
        have unnamed := findSome_session_eq_none_iff.mp found
        rw [Option.none_or]
        constructor
        · intro same
          exact .inr same.symm
        · rintro (⟨pair, member, named⟩ | absent)
          · exact absurd ((unnamed pair member).symm.trans named) (by simp)
          · exact absent.symm
  · rw [if_neg whole, if_neg whole]
    by_cases front : first.all readable = true
    · rw [if_pos front, findSome_session_eq_none_iff, front]
      simp
    · rw [if_neg front]
      exact iff_of_true rfl (.inl (Bool.eq_false_iff.mpr front))

end CookiePair

/-- Splitting the cookies over several fields keeps the token exactly when the first field carries
the session pair or no field does. -/
theorem cookie_split_iff (first : List CookiePair) (rest : List (List CookiePair))
    (split joined : HttpRequest)
    (splitFields : split.headers.getAll "cookie".toList =
      (first :: rest).map CookiePair.field)
    (joinedField : joined.headers.getAll "cookie".toList =
      [CookiePair.field (first :: rest).flatten]) :
    Routes.sessionToken split = Routes.sessionToken joined ↔
      CookiePair.SessionFirst first rest := by
  rw [List.map_cons] at splitFields
  rw [CookiePair.sessionToken_eq splitFields, CookiePair.sessionToken_eq joinedField,
    List.flatten_cons]
  exact CookiePair.fieldSession_split_iff first rest

/-- A preference cookie. -/
def themePair : CookiePair :=
  ⟨Utf8.encode "theme".toList, Utf8.encode "dark".toList, by decide, by decide⟩

/-- A session cookie. -/
def sessionPair : CookiePair :=
  ⟨Utf8.encode "session".toList, Utf8.encode "abc".toList, by decide, by decide⟩

/-- A request for the items page with the cookie fields. -/
def cookieRequest (fields : List (List CookiePair)) : HttpRequest :=
  HttpRequest.fromParts .get (.withoutQuery (.rooted "/ui/items".toList (.refl true)))
    (fields.map fun pairs => ("cookie".toList, CookiePair.field pairs)) []

/-- A session pair in the first of two fields is found as in a single field. -/
theorem cookie_split_iff_session_first :
    Routes.sessionToken (cookieRequest [[sessionPair], [themePair]]) =
      Routes.sessionToken (cookieRequest [[sessionPair, themePair]]) ↔
        CookiePair.SessionFirst [sessionPair] [[themePair]] :=
  cookie_split_iff [sessionPair] [[themePair]] _ _ (by decide) (by decide)

/-- A session pair in the second field is not found, although a single field has it. -/
theorem cookie_split_loses_session :
    Routes.sessionToken (cookieRequest [[themePair], [sessionPair]]) = none ∧
      Routes.sessionToken (cookieRequest [[themePair, sessionPair]]) = some "abc".toList := by
  decide

/-- A cookie as a header text carries it, with the white space on both sides of it. -/
structure SentCookie where
  name : Str
  value : Str
  before : Str
  after : Str
  named : ∀ char ∈ name, isWhitespace char = false ∧ char ≠ '=' ∧ char ≠ ';'
  separated : ';' ∉ value
  trimmed : trim value = value
  blank : ∀ char ∈ before ++ after, isWhitespace char = true

namespace SentCookie

/-- The cookie with its white space. -/
def text (cookie : SentCookie) : Str :=
  cookie.before ++ (cookie.name ++ '=' :: cookie.value) ++ cookie.after

/-- The header joins its cookies by semicolons. -/
def header (cookies : List SentCookie) : Str := [';'].intercalate (cookies.map text)

/-- The cookie has exactly the session name. -/
def isSession (cookie : SentCookie) : Bool := cookie.name = "session".toList

/-- A sent cookie contains no separator. -/
theorem text_separated (cookie : SentCookie) : ';' ∉ cookie.text := by
  have solid : isWhitespace ';' = false := by decide
  simp only [text, List.mem_append, List.mem_cons]
  rintro ((front | name | equals | value) | back)
  · simp [cookie.blank _ (List.mem_append_left _ front)] at solid
  · exact (cookie.named _ name).2.2 rfl
  · exact absurd equals (by decide)
  · exact cookie.separated value
  · simp [cookie.blank _ (List.mem_append_right _ back)] at solid

/-- The parser reads the value of a cookie with the session name and of no other. -/
theorem strip_text (cookie : SentCookie) :
    "session=".toList.isPrefixOf? (trim cookie.text) =
      if cookie.isSession then some cookie.value else none := by
  have solid (char : Char) (member : char ∈ cookie.name) :
      isWhitespace char = false ∧ char ≠ '=' := by
    obtain ⟨visible, notEquals, _⟩ := cookie.named char member
    exact ⟨visible, notEquals⟩
  rw [text, trim_padded _ (fun char member => cookie.blank char (List.mem_append_left _ member))
    (fun char member => cookie.blank char (List.mem_append_right _ member)),
    stripSession_eq solid, rdropWhile_of_trim cookie.trimmed]
  simp only [isSession, decide_eq_true_eq]

/-- The value is that of the first cookie with the session name. -/
theorem extractSessionCookie_header (cookies : List SentCookie) :
    extractSessionCookie (some (header cookies)) = (cookies.find? isSession).map value := by
  cases cookies with
  | nil => decide
  | cons first rest =>
      have clean : ∀ part ∈ (first :: rest).map text, ';' ∉ part := by
        intro part member
        obtain ⟨cookie, _, rfl⟩ := List.mem_map.mp member
        exact cookie.text_separated
      have read : ((fun part => "session=".toList.isPrefixOf? (trim part)) ∘ text) =
          fun cookie => if cookie.isSession then some cookie.value else none := by
        funext cookie
        exact cookie.strip_text
      rw [extractSessionCookie, Option.bind_some, header,
        List.splitOn_intercalate ';' clean (by simp), List.findSome?_map, read]
      induction first :: rest with
      | nil => rfl
      | cons cookie others ih =>
          rw [List.findSome?_cons, List.find?_cons, ih]
          cases cookie.isSession <;> rfl

end SentCookie

/-- The session is looked up by its exact name, and no cookie of another name has a say in it. -/
theorem session_cookie_exact (cookies : List SentCookie) :
    extractSessionCookie (some (SentCookie.header cookies)) =
        (cookies.find? fun cookie => cookie.name = "session".toList).map SentCookie.value ∧
      ∀ others : List SentCookie,
        (others.filter SentCookie.isSession).map SentCookie.value =
          (cookies.filter SentCookie.isSession).map SentCookie.value →
        extractSessionCookie (some (SentCookie.header others)) =
          extractSessionCookie (some (SentCookie.header cookies)) := by
  constructor
  · exact SentCookie.extractSessionCookie_header cookies
  · intro others same
    have first (list : List SentCookie) : (list.find? SentCookie.isSession).map SentCookie.value =
        ((list.filter SentCookie.isSession).map SentCookie.value).head? := by
      rw [List.head?_map, List.head?_filter]
    rw [SentCookie.extractSessionCookie_header, SentCookie.extractSessionCookie_header, first, first,
      same]

end HighperfServer
